import Culprit.Journal
import Culprit.Oracle.Failure

/-!
# Oracles and sessions

An oracle is a verifier that judges a document: it lists the errors of it, says whether there are
none, and names the first. It may keep a state of its own between questions and it may fail to
answer any of them. A session is the state of an oracle together with the journal of what it has
been asked.
-/

namespace Culprit

/-- A verifier with a state. -/
structure Oracle (σ : Type) where
  name : String
  /-- All error messages for a document, none for a valid one. -/
  errors : Text → StateM σ (Except Failure (List String))
  isValid : Text → StateM σ (Except Failure Bool)
  /-- The first error message for a document, if it is not valid. -/
  firstError : Text → StateM σ (Except Failure (Option String))
  close : StateM σ (Except Failure Unit)

/-- An oracle that derives its other answers from the list of errors. -/
def Oracle.ofErrors {σ : Type} (name : String)
    (errors : Text → StateM σ (Except Failure (List String)))
    (close : StateM σ (Except Failure Unit)) : Oracle σ where
  name
  errors
  isValid document := do return (← errors document).map List.isEmpty
  firstError document := do return (← errors document).map List.head?
  close

/-- The state of an oracle in use and what has happened so far. -/
structure Session (σ : Type) where
  oracle : σ
  journal : Journal

namespace Session

variable {σ : Type}

/-- A session in which nothing has happened yet. -/
def start (oracle : σ) : Session σ := ⟨oracle, []⟩

def note (event : Event) : StateM (Session σ) Unit :=
  modify fun session => { session with journal := session.journal ++ [event] }

def log (level : LogLevel) (component : Component) (message : String) : StateM (Session σ) Unit :=
  note (.logged ⟨level, component, message⟩)

def onOracle {α : Type} (action : StateM σ α) : StateM (Session σ) α := fun session =>
  let (answer, oracle) := action session.oracle
  (answer, { session with oracle })

def askErrors (oracle : Oracle σ) (document : Text) :
    StateM (Session σ) (Except Failure (List String)) := do
  note (.asked .errors document)
  onOracle (oracle.errors document)

def askValid (oracle : Oracle σ) (document : Text) :
    StateM (Session σ) (Except Failure Bool) := do
  note (.asked .isValid document)
  onOracle (oracle.isValid document)

def askFirstError (oracle : Oracle σ) (document : Text) :
    StateM (Session σ) (Except Failure (Option String)) := do
  note (.asked .firstError document)
  onOracle (oracle.firstError document)

def close (oracle : Oracle σ) : StateM (Session σ) (Except Failure Unit) := do
  note .closed
  onOracle oracle.close

end Session
end Culprit
