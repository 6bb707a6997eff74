/-!
# Help

The texts shown when a command line asks for them.
-/

set_option autoImplicit false

namespace Cohort.Help

/-- Lines of text, each of them ended. -/
def unlines (lines : List String) : String :=
  String.join (lines.map (fun line => line ++ "\n"))

def versionNumber : String := "0.1.0"

def versionLines : List String := ["syncx " ++ versionNumber]

/-- One line or two for each option. -/
def shortLines : List String :=
  [
    "Stress harness for call deduplication, shared resource caching and concurrency limiting",
    "",
    "Usage: syncx [OPTIONS]",
    "",
    "Options:",
    "      --scenario <SCENARIO>",
    "          Scenario to run [default: all] [possible values: flight, cache, limit, all]",
    "      --callers <CALLERS>",
    "          Concurrent callers per key [default: 64]",
    "      --keys <KEYS>",
    "          Number of distinct keys the callers spread over [default: 4]",
    "      --capacity <CAPACITY>",
    "          Token capacity for the limit scenario [default: 8]",
    "      --work-ms <WORK_MS>",
    "          Simulated work (and dial latency) in milliseconds [default: 10]",
    "      --rounds <ROUNDS>",
    "          Rounds per scenario [default: 3]",
    "      --fail-close-every <FAIL_CLOSE_EVERY>",
    "          Make every n-th connection fail to close on teardown (0 = never) [default: 0]",
    "      --flaky-dials",
    "          Refuse every dial in the first cache round to exercise retries",
    "      --worker-threads <WORKER_THREADS>",
    "          Runtime worker threads (0 = one per CPU) [default: 0]",
    "      --progress",
    "          Show progress information",
    "  -v, --verbose...",
    "          Verbose output (-v, -vv, -vvv)",
    "  -q, --quiet",
    "          Quiet mode (suppress all output except errors)",
    "  -h, --help",
    "          Print help (see more with '--help')",
    "  -V, --version",
    "          Print version" ]

/-- All there is to say about each option. -/
def fullLines : List String :=
  [
    "Stress harness for call deduplication, shared resource caching and concurrency limiting",
    "",
    "Usage: syncx [OPTIONS]",
    "",
    "Options:",
    "      --scenario <SCENARIO>",
    "          Scenario to run",
    "",
    "          Possible values:",
    "          - flight: Call deduplication",
    "          - cache:  Lazily created shared connections and teardown",
    "          - limit:  Counting limiter",
    "          - all:    Every scenario in turn",
    "          ",
    "          [default: all]",
    "",
    "      --callers <CALLERS>",
    "          Concurrent callers per key",
    "          ",
    "          For the limit scenario this is the number of callers competing for tokens in each round.",
    "          ",
    "          [default: 64]",
    "",
    "      --keys <KEYS>",
    "          Number of distinct keys the callers spread over",
    "          ",
    "          [default: 4]",
    "",
    "      --capacity <CAPACITY>",
    "          Token capacity for the limit scenario",
    "          ",
    "          [default: 8]",
    "",
    "      --work-ms <WORK_MS>",
    "          Simulated work (and dial latency) in milliseconds",
    "          ",
    "          [default: 10]",
    "",
    "      --rounds <ROUNDS>",
    "          Rounds per scenario",
    "          ",
    "          [default: 3]",
    "",
    "      --fail-close-every <FAIL_CLOSE_EVERY>",
    "          Make every n-th connection fail to close on teardown (0 = never)",
    "          ",
    "          [default: 0]",
    "",
    "      --flaky-dials",
    "          Refuse every dial in the first cache round to exercise retries",
    "",
    "      --worker-threads <WORKER_THREADS>",
    "          Runtime worker threads (0 = one per CPU)",
    "          ",
    "          [default: 0]",
    "",
    "      --progress",
    "          Show progress information",
    "",
    "  -v, --verbose...",
    "          Verbose output (-v, -vv, -vvv)",
    "",
    "  -q, --quiet",
    "          Quiet mode (suppress all output except errors)",
    "",
    "  -h, --help",
    "          Print help (see a summary with '-h')",
    "",
    "  -V, --version",
    "          Print version" ]

end Cohort.Help
