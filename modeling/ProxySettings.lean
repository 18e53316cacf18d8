import ProxySettings.Main
import ProxySettings.World.Edit
import ProxySettings.Proofs.Refusal
import ProxySettings.Proofs.SingleUser
import ProxySettings.Proofs.Requirement
import ProxySettings.Proofs.Resolution
import ProxySettings.Proofs.CertLookup
import ProxySettings.Proofs.Authentication
import ProxySettings.Proofs.Base64
import ProxySettings.Proofs.Credentials
import ProxySettings.Proofs.SingleUserAccess
import ProxySettings.Proofs.PasswordCheck
import ProxySettings.Proofs.BcryptText
import ProxySettings.Proofs.CredentialEntries
import ProxySettings.Proofs.StoredPasswords
import ProxySettings.Proofs.ExclusiveChoice
import ProxySettings.Proofs.LoadedStore
import ProxySettings.Proofs.ResolvedConfig
import ProxySettings.Proofs.CheckReport
import ProxySettings.Proofs.StoreHistory
import ProxySettings.Proofs.TwoRuns
import ProxySettings.Proofs.FileContent
import ProxySettings.Proofs.Secrecy
import ProxySettings.Proofs.VariableNames
import ProxySettings.Proofs.LayeredSettings
import ProxySettings.Proofs.LoadedSettings
import ProxySettings.Proofs.JsonText
import ProxySettings.Proofs.ShownSettings
import ProxySettings.Proofs.EmptyTexts
import ProxySettings.Proofs.AddressText
import ProxySettings.Proofs.ServerAddress
import ProxySettings.Proofs.CredentialFields
import ProxySettings.Proofs.CredentialValue
import ProxySettings.Proofs.Lines
import ProxySettings.Proofs.CredentialGrammar
import ProxySettings.Proofs.ServerText
import ProxySettings.Proofs.ShaPasswords
import ProxySettings.Proofs.SizeGrammar
import ProxySettings.Proofs.ModeChoice
import ProxySettings.Proofs.PatternSearch
import ProxySettings.Proofs.PatternSize
import ProxySettings.Proofs.LiteralPattern
import ProxySettings.Proofs.CertSpecText
import ProxySettings.Proofs.PatternLists
import ProxySettings.Proofs.CaselessPattern
import ProxySettings.Proofs.CertFile
import ProxySettings.Proofs.HomePath
import ProxySettings.Proofs.RealmChallenge
