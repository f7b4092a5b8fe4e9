import LiveConfig.Value.Text
import LiveConfig.Text.Quoted

/-! What can go wrong outside of an evaluation, and how it is put into words. -/
namespace LiveConfig

inductive ConfigError
  | invalidConfig (key reason : String)
  | missingVariable (name : String)
  | unreadableVariable (name : String) (type : ValueType)
  | initializationTimeout
deriving DecidableEq, Inhabited

def ConfigError.message : ConfigError → String
  | invalidConfig key reason => "invalid config " ++ Text.quoted key ++ ": " ++ reason
  | missingVariable name => "environment variable " ++ Text.quoted name ++ " is not set"
  | unreadableVariable name type =>
    "unable to parse environment variable " ++ Text.quoted name ++ " as " ++ type.label
  | initializationTimeout => "timed out waiting for the first configuration snapshot"

end LiveConfig
