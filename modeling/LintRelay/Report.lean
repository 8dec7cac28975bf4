import LintRelay.JsonWriter
import LintRelay.Summary

/-!
# The saved report

The text in which the results of a run are saved: one JSON object with an entry for each document.
-/
namespace LintRelay.Results

def report (results : Results) : String := Json.write results.toValue

end LintRelay.Results
