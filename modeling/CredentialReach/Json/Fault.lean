/-! Why a text is not the document that was asked for. -/

namespace CredentialReach

inductive JsonFaultKind where
  | ended
  | malformed
  | mismatched
deriving DecidableEq, Repr

structure JsonFault where
  kind : JsonFaultKind
  message : String
deriving DecidableEq, Repr

namespace JsonFault

def ended (inside : String) : JsonFault := ⟨.ended, s!"the text ends inside {inside}"⟩

def malformed (message : String) : JsonFault := ⟨.malformed, message⟩

def expected (what : String) : JsonFault := ⟨.mismatched, s!"expected {what}"⟩

def missing (field : String) : JsonFault := ⟨.mismatched, s!"missing field '{field}'"⟩

def repeated (field : String) : JsonFault := ⟨.mismatched, s!"repeated field '{field}'"⟩

end JsonFault

end CredentialReach
