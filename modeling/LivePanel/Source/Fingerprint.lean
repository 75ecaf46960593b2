import LivePanel.Digest.Blake3

/-!
# Fingerprints

A mark of the content that a template source has under a key: the digest of a text, or
the time of a file's last change with its length.
-/

namespace LivePanel

/-- A fingerprint. -/
structure Fingerprint where
  text : String
deriving DecidableEq, Inhabited

namespace Fingerprint

/-- The fingerprint of a text. -/
def ofText (s : String) : Fingerprint := ⟨"b3:" ++ Blake3.ofText s⟩

/-- The fingerprint of a file that was last changed so many nanoseconds after the epoch. -/
def ofFile (modified : Option Nat) (length : Nat) : Fingerprint :=
  ⟨"fs:" ++ toString (modified.getD 0) ++ ":" ++ toString length⟩

end Fingerprint

end LivePanel
