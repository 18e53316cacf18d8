import ProxySettings.Certs.Pem

/-!
# Refusals

Every way in which options can be refused, by cause, and the text of each. Two of the texts name
causes in the words of others: what is wrong with a pattern, and what is wrong with a document. In
the proxy this is `ConfigError`.
-/

namespace ProxySettings

/-- The options that exclude each other, by the name under which they are asked for. -/
inductive Flag where
  | transparent
  | socks
  | reverse
  | upstream
  | nonanonymous
  | singleuser
  | htpasswd
  deriving Repr, DecidableEq

/-- The name of an option on the command line. -/
def Flag.name : Flag → String
  | transparent => "--transparent"
  | socks => "--socks"
  | reverse => "--reverse"
  | upstream => "--upstream"
  | nonanonymous => "--nonanonymous"
  | singleuser => "--singleuser"
  | htpasswd => "--htpasswd"

/-- The values that are written in a format of their own. -/
inductive Format where
  | httpForm
  | serverSpec
  | realm
  | singleUser
  | certSpec
  | size
  deriving Repr, DecidableEq

/-- What a value of a format is called. -/
def Format.name : Format → String
  | httpForm => "HTTP form"
  | serverSpec => "server specification"
  | realm => "authentication realm"
  | singleUser => "single-user specification"
  | certSpec => "certificate specification"
  | size => "size specification"

/-- How a value of a format is written. -/
def Format.hint : Format → String
  | httpForm => "Expected one of relative, absolute, authority"
  | serverSpec => "Please use the format http[s]://host[:port]"
  | realm => "The realm must be a valid header value"
  | singleUser => "Please use the format username:password"
  | certSpec => "Please use the format [domain=]path"
  | size => "Expected a positive integer with an optional k, m or g suffix"

/-- The things that options name by a path. -/
inductive Resource where
  | clientCerts
  | certificate
  | htpasswd
  | configuration
  deriving Repr, DecidableEq

/-- What a thing named by a path is called. -/
def Resource.name : Resource → String
  | clientCerts => "Client certificate directory"
  | certificate => "Certificate file"
  | htpasswd => "htpasswd file"
  | configuration => "Configuration file"

/-- Why the hash of a password is refused. -/
inductive HashFault where
  | shaDigest (fault : Base64.Fault)
  | shaLength
  | unsupported (scheme : String)
  deriving Repr, DecidableEq

/-- The text of a refused hash. -/
def HashFault.message : HashFault → String
  | shaDigest fault => "invalid \x7bSHA\x7d digest: " ++ fault.message
  | shaLength => "invalid \x7bSHA\x7d digest length"
  | unsupported scheme => "unsupported hash scheme $" ++ scheme ++ "$"

/-- Why a file of credentials is refused. Lines count from one; a line without a hash fault has no
user. -/
inductive CredentialFault where
  | unreadable (path : String) (fault : World.IoFault)
  | malformed (line : Nat) (fault : Option HashFault)
  deriving Repr, DecidableEq

/-- The text of a refused file of credentials. -/
def CredentialFault.message : CredentialFault → String
  | unreadable path fault => "Could not read htpasswd file " ++ path ++ ": " ++ fault.message
  | malformed line none => s!"Malformed htpasswd file at line {line}"
  | malformed line (some fault) =>
    s!"Malformed htpasswd file at line {line}" ++ ": " ++ fault.message

/-- Why a configuration file is refused. -/
inductive ParseFault where
  | unsupportedFormat
  | malformed
  deriving Repr, DecidableEq

/-- The words of those who read patterns and documents. -/
structure Wording where
  /-- What is wrong with a pattern. -/
  pattern : String → String
  /-- What is wrong with the documents that were loaded. -/
  document : String

/-- The text of a refused configuration file. -/
def ParseFault.message (wording : Wording) : ParseFault → String
  | unsupportedFormat => "Unsupported config file format. Use .toml, .json, .yaml, or .yml"
  | malformed => wording.document

/-- Why options are refused. -/
inductive ConfigError where
  | mutuallyExclusive (flags : List Flag)
  | transparentUnsupported
  | invalidFormat (format : Format) (input : String)
  | invalidTlsVersion (label : String)
  | fileNotFound (what : Resource) (path : String)
  | notADirectory (what : Resource) (path : String)
  | notAFile (what : Resource) (path : String)
  | credentials (fault : CredentialFault)
  | hostPattern (text : String)
  | certificate (path : String) (fault : Pem.Fault)
  | noHomeDir
  | parse (fault : ParseFault)
  | io (fault : World.IoFault)
  deriving Repr, DecidableEq

/-- The text of a refusal. -/
def ConfigError.message (wording : Wording) : ConfigError → String
  | mutuallyExclusive flags => ", ".intercalate (flags.map Flag.name) ++ " are mutually exclusive"
  | transparentUnsupported => "Transparent mode is not supported on this platform"
  | invalidFormat format input =>
    "Invalid " ++ format.name ++ ": " ++ input ++ ". " ++ format.hint
  | invalidTlsVersion label => "Invalid SSL version: " ++ label
  | fileNotFound what path => what.name ++ " does not exist: " ++ path
  | notADirectory what path => what.name ++ " is not a directory: " ++ path
  | notAFile what path => what.name ++ " is not a file: " ++ path
  | credentials fault => fault.message
  | hostPattern text => "Invalid host pattern '" ++ text ++ "': " ++ wording.pattern text
  | certificate path fault => "Failed to load certificate " ++ path ++ ": " ++ fault.message
  | noHomeDir => "Could not determine home directory"
  | parse fault => "Parse error: " ++ fault.message wording
  | io fault => "IO error: " ++ fault.message

end ProxySettings
