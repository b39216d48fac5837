import CredentialReach.Collection.Basic

/-! Failed branches of a walk. -/

namespace CredentialReach

inductive BranchFailure where
  | transport (fault : TransportFault)
  | timedOut
  | unexpectedStatus (status : Nat)
  | decode (fault : CollectionFault)
  | panicked (message : String)
deriving DecidableEq, Repr

namespace BranchFailure

def kind : BranchFailure → String
  | transport _ => "Transport"
  | timedOut => "Timeout"
  | unexpectedStatus _ => "UnexpectedStatus"
  | decode _ => "Decode"
  | panicked _ => "Panicked"

def message : BranchFailure → String
  | transport fault => fault.message
  | timedOut => "deadline exceeded"
  | unexpectedStatus status => s!"unexpected status {Nat.repr status}"
  | decode fault => s!"failed to decode response: {fault.message}"
  | panicked message => s!"task panicked: {message}"

end BranchFailure

structure BranchError where
  collection : String
  /-- The full name of the containing resource. -/
  parent : Option String
  failure : BranchFailure
deriving DecidableEq, Repr

def BranchError.message (error : BranchError) : String :=
  match error.parent with
  | some parent => s!"{error.collection} of {parent}: {error.failure.message}"
  | none => s!"{error.collection}: {error.failure.message}"

structure WalkError where
  branches : List BranchError
deriving DecidableEq, Repr

namespace WalkError

/-- No branches are no error. -/
def join? (branches : List BranchError) : Option WalkError :=
  if branches.isEmpty then none else some ⟨branches⟩

def message (error : WalkError) : String :=
  let reasons := "; ".intercalate (error.branches.map (·.message))
  s!"{Nat.repr error.branches.length} branch(es) failed: {reasons}"

end WalkError

end CredentialReach
