import LabeledSeries.CommandLine.Request

/-!
# Help

What the program says about itself and its commands.
-/

namespace LabeledSeries.CommandLine

/-- The name of the program. -/
def programName : String := "prom-ext"

/-- The program and its version. -/
def versionText : String := programName ++ " 0.1.0\n"

/-- The folder of dumps that is meant where none is given. -/
def defaultSamples : String := "../samples"

/-- The lookback that is meant where none is given, in seconds. -/
def defaultLookback : Nat := 300

/-- Lines of text. -/
def lines (texts : List String) : String := String.join (texts.map (· ++ "\n"))

/-- The help on a topic. -/
def Topic.text : Topic → String
  | .program => lines [
      "PromQL extension functions over local samples",
      "",
      "Usage: " ++ programName ++ " [OPTIONS] <COMMAND>",
      "",
      "Commands:",
      "  query  Evaluates a selector or a literal",
      "  call   Calls an extension function",
      "  rules  Evaluates the recording rules of a JSON file",
      "  list   Lists extension functions and rule filters",
      "  help   Print this message or the help of the given subcommand(s)",
      "",
      "Options:",
      "      --samples <SAMPLES>    Directory with Prometheus API JSON dumps; every metric " ++
        "becomes a table [default: " ++ defaultSamples ++ "]",
      "      --time <TIME>          Evaluation time as Unix seconds [default: read from " ++
        "samples/timestamp.log]",
      "      --lookback <LOOKBACK>  How far back instant selectors look for a sample, in " ++
        "seconds [default: 300]",
      "  -h, --help                 Print help",
      "  -V, --version              Print version"]
  | .query => lines [
      "Evaluates a selector or a literal",
      "",
      "Usage: " ++ programName ++ " query <EXPR>",
      "",
      "Arguments:",
      "  <EXPR>  ",
      "",
      "Options:",
      "  -h, --help  Print help"]
  | .call => lines [
      "Calls an extension function",
      "",
      "Usage: " ++ programName ++ " call <NAME> [ARGS]...",
      "",
      "Arguments:",
      "  <NAME>     ",
      "  [ARGS]...  Selectors, numbers or strings, as the function declares",
      "",
      "Options:",
      "  -h, --help  Print help",
      "",
      "Examples:",
      "    select2 'pod_name|pod' container_cpu_usage_seconds kube_pod_labels label_app:app",
      "    labels_rename container_cpu_usage_seconds pod_name pod",
      "    aggregate_matrix_max 'container_cpu_usage_seconds[5m]'"]
  | .rules => lines [
      "Evaluates the recording rules of a JSON file",
      "",
      "Usage: " ++ programName ++ " rules [OPTIONS] <PATH>",
      "",
      "Arguments:",
      "  <PATH>  ",
      "",
      "Options:",
      "      --shards <SHARDS>  Prints the shard groups instead of evaluating",
      "  -h, --help             Print help"]
  | .list => lines [
      "Lists extension functions and rule filters",
      "",
      "Usage: " ++ programName ++ " list",
      "",
      "Options:",
      "  -h, --help  Print help"]
  | .help => lines [
      "Print this message or the help of the given subcommand(s)",
      "",
      "Usage: " ++ programName ++ " help [COMMAND]...",
      "",
      "Arguments:",
      "  [COMMAND]...  Print help for the subcommand(s)"]

end LabeledSeries.CommandLine
