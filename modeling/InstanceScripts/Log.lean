/-!
# Log lines

What is reported while settings are loaded and scripts are retrieved.
-/

namespace InstanceScripts
namespace Log

/-- One reported line. -/
inductive Line where
  | info (text : String)
  | warn (text : String)
  deriving DecidableEq, Repr

/-- A line with its level in front. -/
def Line.render : Line → String
  | .info text => "INFO " ++ text
  | .warn text => "WARN " ++ text

end Log
end InstanceScripts
