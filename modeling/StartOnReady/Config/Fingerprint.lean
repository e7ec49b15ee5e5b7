import StartOnReady.Config.Json
import StartOnReady.Digest.Sha256

/-!
# Fingerprints of configurations

The fingerprint is taken from the JSON text of a configuration, in which every field stands.
-/

namespace StartOnReady.Config

/-- The text that is digested. -/
def text (c : Config) : String := c.toJson.render

/-- The first sixteen hexadecimal digits of the digest. -/
def fingerprint (c : Config) : String :=
  String.ofList ((Digest.Sha256.ofMessage c.text.toUTF8.data.toList).hexDigits.take 16)

end StartOnReady.Config
