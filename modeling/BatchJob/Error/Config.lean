import BatchJob.Error.Input
import BatchJob.Text.Quoted

set_option autoImplicit false

/-!
Why a configuration cannot be carried out.
-/

namespace BatchJob

inductive SpecifierFault where
  | unreadable (fault : InputFault)
  | outputNotStorage
  | reported (message : String)
  deriving DecidableEq

inductive SettingFault where
  | gpusWithoutType
  | bearerToken
  | reported (message : String)
  deriving DecidableEq

inductive ConfigError where
  | conflictingLocations
  | noCommand
  | multipleSources
  | specifier (path : String) (fault : SpecifierFault)
  | lookup (what : String) (reason : String)
  | invalid (fault : SettingFault)
  deriving DecidableEq

def SpecifierFault.message : SpecifierFault → String
  | unreadable fault => "reading input file: " ++ fault.message
  | outputNotStorage => "outputs must be storage URIs"
  | reported message => message

def SettingFault.message : SettingFault → String
  | gpusWithoutType => "gpus requested without a gpu type"
  | bearerToken => "invalid bearer token"
  | reported message => message

def ConfigError.message : ConfigError → String
  | conflictingLocations => "both zones and regions have been supplied"
  | noCommand => "no command or input file was specified"
  | multipleSources => "only one of a command or an input file may be specified"
  | specifier path fault => "processing " ++ Text.quoted path ++ ": " ++ fault.message
  | lookup what reason => "expanding " ++ what ++ ": " ++ reason
  | invalid fault => "invalid configuration: " ++ fault.message

end BatchJob
