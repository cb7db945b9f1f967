import Northbound.Address
import Northbound.Config.Settings
import Northbound.Connection
import Northbound.Credentials
import Northbound.FileSystem.Lookup
import Northbound.Text.Blank

/-!
# Configuration of a connection

Settings that have been checked: they hold a valid address and name a user. The connection and the
credentials follow from them.
-/

namespace Northbound

/-- Why a configuration is refused. -/
inductive ConfigError where
  | invalidAddress (error : AddressError)
  | missingField (name : String)
  /-- The document does not hold the settings. -/
  | malformed
  | unreadable (error : FileError)
deriving DecidableEq, Repr

/-- The wording of a refusal. -/
def ConfigError.message : ConfigError → String
  | .invalidAddress e => "invalid OSM address: " ++ e.message
  | .missingField name => "missing required field: " ++ name
  | .malformed => "failed to parse OSM connection config"
  | .unreadable e => "failed to read OSM connection config: " ++ e.message

/-- A checked configuration. -/
structure Config where
  settings : Settings
  address : Address
deriving DecidableEq, Repr

namespace Config

/-- Checks settings. The address is looked at before the user. -/
def ofSettings (s : Settings) : Except ConfigError Config :=
  match Address.parse s.hostname with
  | .error e => .error (.invalidAddress e)
  | .ok address =>
    if (Text.trim s.user).isEmpty then .error (.missingField "user")
    else .ok { settings := s, address }

/-- The configuration that a YAML text holds. -/
def parse (text : String) : Except ConfigError Config :=
  match Settings.ofText? text with
  | none => .error .malformed
  | some s => ofSettings s

/-- The configuration in a file. -/
def load (fs : FileSystem) (path : Path) : Except ConfigError Config :=
  match fs.readText path with
  | .error e => .error (.unreadable e)
  | .ok text => parse text

/-- The server and how it is reached. -/
def connection (c : Config) : Connection := { address := c.address, secure := c.settings.secure }

/-- Who logs in. -/
def credentials (c : Config) : Credentials :=
  { username := c.settings.user, password := c.settings.password, project := c.settings.project }

/-- The configuration as a document. -/
def toJson (c : Config) : Json :=
  .object [("hostname", .text c.settings.hostname), ("user", .text c.settings.user),
    ("password", .text c.settings.password), ("project", .text c.settings.project),
    ("secure", .bool c.settings.secure),
    ("requestTimeout", .text c.settings.requestTimeout.render)]

end Config

end Northbound
