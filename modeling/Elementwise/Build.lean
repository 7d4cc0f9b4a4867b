import Elementwise.Kernel
import Elementwise.Logging
import Elementwise.Table

/-!
# Builds

A build generates kernels, looks them up in the cache and logs what it does. It may fail, and what
it did before it failed stays done. Generated kernels are numbered, so that two kernels with the
same content can still be told apart.

A request asks for a kernel under a key. In a chain of requests the factory of each one makes the
next request before it generates its own kernel.
-/

namespace Elementwise

/-- A generated kernel with its number. Each generated kernel has a number of its own. -/
structure Artifact where
  serial : Nat
  kernel : Kernel

/-- The cached kernels by key. -/
abbrev Cache := Table Artifact

/-- What builds work on: the cache, the number of the next kernel, and the journal. -/
structure BuildState where
  cache : Cache := ∅
  nextSerial : Nat := 0
  journal : Journal := {}

abbrev Build (α : Type) := ExceptT Failure (StateM BuildState) α

namespace Build

variable {β : Type}

/-- Log something. The journal tests the level at once. -/
def emit (event : Event) : Build Unit :=
  modify fun s => { s with journal := s.journal.record event }

/-- Give a number to a generated kernel. -/
def issue (kernel : Kernel) : Build Artifact := do
  let s ← get
  set { s with nextSerial := s.nextSerial + 1 }
  return ⟨s.nextSerial, kernel⟩

def cached? (key : String) : Build (Option Artifact) := return (← get).cache.find? key

def isCached (key : String) : Build Bool := return (← get).cache.contains key

def cacheSize : Build Nat := return (← get).cache.size

def store (key : String) (artifact : Artifact) : Build Unit :=
  modify fun s => { s with cache := s.cache.insert key artifact }

/-- Forget all cached kernels. Numbers go on from where they were. -/
def clear : Build Unit := modify fun s => { s with cache := ∅ }

def cacheLogger : Logger := { part := "Kernel-Cache" }

/-- The kernel under a key. If there is none, the factory makes it, and it is put under the key
whatever the factory has put there meanwhile. The second result is what the factory reports, if it
ran. -/
def getOrMake (key : String) (factory : Build (Artifact × β)) : Build (Artifact × Option β) := do
  match ← cached? key with
  | some artifact => return (artifact, none)
  | none =>
    let (artifact, report) ← factory
    store key artifact
    emit (cacheLogger.say .debug ("Generated " ++ key))
    return (artifact, some report)

/-- The kernel under a key, made by the factory if there is none. -/
def getOrCreate (key : String) (factory : Build Artifact) : Build Artifact := do
  let (artifact, _) ← getOrMake key do return (← factory, ())
  return artifact

end Build

/-! ### Requests -/

/-- A request for a kernel under a key. Its factory fails if a reason to refuse is given. -/
structure Request where
  key : String
  input : String
  output : String
  function : String
  options : KernelOptions := {}
  refusal : Option String := none

namespace Request

/-- What a request yields: the kernel, whether the request's own factory ran, and the kernels
yielded to the requests made by the factory, the innermost first. -/
structure Outcome where
  artifact : Artifact
  factoryRan : Bool
  inner : List Artifact

/-- Carry out a request whose factory begins with `further`. -/
def perform (request : Request) (further : Build (List Artifact)) : Build Outcome := do
  let (artifact, inner) ← Build.getOrMake request.key do
    if let some reason := request.refusal then
      throw (.compile reason)
    let inner ← further
    let kernel := Kernel.generate request.input request.output request.function request.options
    return (← Build.issue kernel, inner)
  return ⟨artifact, inner.isSome, inner.getD []⟩

/-- Carry out a chain of requests, given by the outermost request and those inside it. -/
def run (request : Request) : (inside : List Request) → Build Outcome
  | [] => request.perform (return [])
  | next :: inside => request.perform do
    let outcome ← next.run inside
    return outcome.inner ++ [outcome.artifact]

end Request

end Elementwise
