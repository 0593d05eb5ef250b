import ThreatAnalysis.Files.Tree
import ThreatAnalysis.Json.Writer

/-!
The rules that come with the program, and the file tree that holds them beside an empty working
directory. The baseline asks the questions that apply to every diagram; the supplemental rules
look at web applications, APIs and what is reached over public networks.
-/
namespace ThreatAnalysis.Bundled

/-- The entry of a rule. -/
def entry (name expression title category severity description mitigation : String) : Json :=
  .object [("rule", .string name), ("matches", .array [.string expression]),
    ("generates", .object [("title", .string title), ("stride", .string category),
      ("severity", .string severity), ("description", .string description),
      ("mitigation", .string mitigation)])]

/-- The document of a list of rules. -/
def document (entries : List Json) : Json :=
  .object [("rules", .array entries)]

/-- The baseline rules. -/
def baseline : Json := document [
  entry "Actor spoofing"
    "isActor"
    "Spoofing of external actor"
    "Spoofing" "Medium"
    "An attacker could impersonate this actor to gain access to the system."
    "Authenticate the actor with strong, ideally multi-factor, credentials.",
  entry "Actor repudiation"
    "isActor"
    "Actor denies performing an action"
    "Repudiation" "Low"
    "Without an audit trail the actor can deny actions taken through the system."
    "Log security-relevant actions with the authenticated identity and a timestamp.",
  entry "Process tampering"
    "isProcess"
    "Tampering with process inputs"
    "Tampering" "Medium"
    "Unvalidated input could alter the behaviour of this process."
    "Validate and sanitize all inputs at the process boundary.",
  entry "Process denial of service"
    "isProcess"
    "Process resource exhaustion"
    "Denial of service" "Medium"
    "The process could be overwhelmed by excessive or expensive requests."
    "Apply rate limiting, quotas and timeouts.",
  entry "Store information disclosure"
    "and(isStore, not(isEncrypted))"
    "Unencrypted data at rest"
    "Information disclosure" "High"
    "Data in this store is not encrypted and could be read if the storage is compromised."
    "Encrypt data at rest and restrict access to the underlying storage.",
  entry "Store tampering"
    "isStore"
    "Unauthorized modification of stored data"
    "Tampering" "Medium"
    "Stored data could be modified by a party without write permission."
    "Enforce least-privilege access control and integrity checks on stored data.",
  entry "Unencrypted flow"
    "and(isFlow, not(isEncrypted))"
    "Unencrypted data flow"
    "Information disclosure" "High"
    "Data on this flow travels in clear text and could be intercepted."
    "Protect the flow with TLS or an equivalent encrypted channel.",
  entry "Public network flow"
    "and(isFlow, isPublicNetwork)"
    "Data flow crosses a public network"
    "Tampering" "Medium"
    "Traffic crossing a public network can be observed or altered in transit."
    "Use mutually authenticated, encrypted transport for flows over public networks.",
  entry "Flow into store"
    "connects(isAnyProcess, isStore)"
    "Injection into data store"
    "Tampering" "High"
    "Data written to the store could carry injection payloads."
    "Use parameterized queries and validate data before it is stored."]

/-- The supplemental rules. -/
def supplemental : Json := document [
  entry "Public facing web application"
    "and(isWebApplication, isPublicFacing)"
    "Cross-site scripting in public web application"
    "Tampering" "High"
    "A public facing web application may reflect or store untrusted content that executes in users' browsers."
    "Encode output by context, apply a Content Security Policy and validate input.",
  entry "Public facing API"
    "and(isAPI, isPublicFacing)"
    "Broken object level authorization"
    "Elevation of privilege" "High"
    "A public API may expose objects to callers that are not authorized for them."
    "Check authorization for every object access on the server side.",
  entry "Public facing process without authentication"
    "and(isProcess, isPublicFacing, not(hasProperty(authentication)))"
    "No authentication recorded for public facing process"
    "Spoofing" "High"
    "The process is reachable from a public network and no authentication mechanism is documented."
    "Require authentication and record the mechanism on the process.",
  entry "Public credentials flow"
    "and(isPublicNetwork, not(isEncrypted), source(isActor))"
    "Credentials sent in clear over public network"
    "Information disclosure" "Critical"
    "An actor sends data to the system over a public network without encryption."
    "Enforce TLS and HSTS for every actor-facing endpoint.",
  entry "Store reached from public network"
    "and(isStore, isPublicFacing)"
    "Data store exposed to public network"
    "Information disclosure" "Critical"
    "A data store is reached directly by a flow over a public network."
    "Place data stores behind an application tier and restrict network access.",
  entry "Web application session handling"
    "isWebApplication"
    "Session hijacking"
    "Spoofing" "Medium"
    "Session tokens of the web application could be stolen or fixated."
    "Use secure, HttpOnly, SameSite cookies and rotate session identifiers on login."]

/-- The file of a document. -/
def file [Platform] (document : Json) : Entry :=
  .file (.text (document.render (.indented 2)))

end ThreatAnalysis.Bundled

namespace ThreatAnalysis.FileTree

/-- The file tree with an empty working directory and the rules that come with the program. -/
def initial [Platform] : FileTree := ⟨[
  (["home"], .directory),
  (workingDirectory, .directory),
  (["share"], .directory),
  (bundledDirectory, .directory),
  (bundledDirectory ++ ["generic.json"], Bundled.file Bundled.baseline),
  (bundledDirectory ++ ["enhanced-generic.json"], Bundled.file Bundled.supplemental)]⟩

end ThreatAnalysis.FileTree
