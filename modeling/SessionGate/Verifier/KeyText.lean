import SessionGate.Json.Reader

/-!
# Texts that hold keys of a pair

Keys of a pair are passed around as texts: as a block below a marked line, or as a line that names
the kind of the key. `KeyText.holdsPairKey` finds both. It looks at the form only, and inside the
text too; of a block the marked line alone is enough.
-/

namespace SessionGate.KeyText

open Json

/-- Whether a rest of the text, the whole of it included, has a property. -/
def anySuffix (p : List Char → Bool) : List Char → Bool
  | [] => p []
  | c :: cs => p (c :: cs) || anySuffix p cs

/-! ## Blocks -/

def blockNames : List String :=
  ["CERTIFICATE", "TRUSTED CERTIFICATE", "PRIVATE KEY", "PUBLIC KEY", "ENCRYPTED PRIVATE KEY",
    "OPENSSH PRIVATE KEY", "DSA PRIVATE KEY", "RSA PRIVATE KEY", "RSA PUBLIC KEY",
    "EC PRIVATE KEY", "DH PARAMETERS", "NEW CERTIFICATE REQUEST", "CERTIFICATE REQUEST",
    "SSH2 PUBLIC KEY", "SSH2 ENCRYPTED PRIVATE KEY", "X509 CRL"]

/-- What follows a dash or a blank. -/
def afterDash? : List Char → Option (List Char)
  | c :: rest => if c = '-' ∨ c = ' ' then some rest else none
  | [] => none

/-- Whether the text begins with the marked line of a block. -/
def beginsBlock (name : String) (cs : List Char) : Bool :=
  (do
    let cs ← afterDash? (← afterWord? "----".toList cs)
    let cs ← afterDash? (← afterWord? s!"BEGIN {name}".toList cs)
    afterWord? "----".toList cs).isSome

/-! ## Lines -/

/-- The kinds of keys that stand in one line. -/
def lineKinds : List String :=
  ["ssh-ed25519", "ssh-rsa", "ssh-dss", "ecdsa-sha2-nistp256", "ecdsa-sha2-nistp384",
    "ecdsa-sha2-nistp521"]

/-- How the kind of a certified key ends. -/
def certifiedEnding : String := "-cert-v01@openssh.com"

/-- A blank of ASCII. -/
def isAsciiBlank (c : Char) : Bool :=
  c == ' ' || ('\t' ≤ c && c ≤ '\r')

/-- Whether the text begins with the kind of a certified key and has another word after it on the
same line. -/
def namesCertified (cs : List Char) : Bool :=
  let kind := cs.takeWhile (!isAsciiBlank ·)
  let rest := cs.drop kind.length
  let word := rest.dropWhile fun c ↦ c == ' ' || c == '\t'
  certifiedEnding.toList.isSuffixOf kind && word.head?.any (!isAsciiBlank ·)

/-! ## Both -/

/-- Whether the text holds a key of a pair. -/
def holdsPairKey (cs : List Char) : Bool :=
  blockNames.any (fun name ↦ anySuffix (beginsBlock name) cs) ||
    lineKinds.any (fun kind ↦ anySuffix (kind.toList.isPrefixOf ·) cs) || namesCertified cs

end SessionGate.KeyText
