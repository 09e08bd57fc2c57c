import RequestBinding.Injector.Basic

/-!
Calls of handlers and results of dependencies.  A result that may be cached is made by whoever asks
first; the others wait for it, and make it themselves if that failed.
-/
namespace RequestBinding
variable {n : Nat}

/-- Call a handler.  One that works on the task of the request gives way before it acts; one that
works on a thread of its own acts at once, and the task gives way meanwhile. -/
def Catalogue.call (catalogue : Catalogue n) (id : Fin n) (args : CallArgs) :
    Routine (Session n) Resolved := do
  Routine.pauses (catalogue id).pausesBefore
  let invocation ← Routine.act (Session.beginCall id args)
  Routine.pauses (catalogue id).pausesAfter
  match (catalogue id).reply invocation with
  | .ok reply => return .ok (← Routine.act (Session.accept reply))
  | .error fault => return .error fault

/-- Call a handler that owns files; they are released when the call is over. -/
def Catalogue.callHolding (catalogue : Catalogue n) (id : Fin n) (args : CallArgs)
    (uploads : List UploadFile) : Routine (Session n) Resolved := do
  let result ← catalogue.call id args
  Routine.act (Session.release uploads)
  return result

/-- The cached result of a handler, or a new one that is cached if it is a success. -/
def resolveCached (id : Fin n) (make : Routine (Session n) Resolved) :
    Routine (Session n) Resolved := do
  let ticket ← Routine.act (Session.enter id)
  match ← Routine.await (Session.turn id ticket) with
  | some arg => return .ok arg
  | none =>
    let result ← make
    Routine.act (Session.leave id ticket result.toOption)
    return result

def Injector.thenCall (injector : Injector n) (catalogue : Catalogue n) (id : Fin n) (r : Request) :
    Routine (Session n) Resolved := do
  match ← injector.inject r with
  | .ok args => catalogue.call id args
  | .error fault => return .error fault

mutual

def Compiled.link (catalogue : Catalogue n) : Compiled n → Binding n (Link n)
  | .mk ⟨handler, name, isAsync, method, route, concurrent, fields⟩ =>
    ⟨handler, name, isAsync, method, route, concurrent, linkFields catalogue fields⟩

def linkFields (catalogue : Catalogue n) : List (Field (Need (Compiled n))) → List (Field (Link n))
  | [] => []
  | f :: fs => linkField catalogue f :: linkFields catalogue fs

def linkField (catalogue : Catalogue n) : Field (Need (Compiled n)) → Field (Link n)
  | ⟨name, schema, alias?, default?, kind, feed⟩ =>
    ⟨name, schema, alias?, default?, kind, linkFeed catalogue feed⟩

def linkFeed (catalogue : Catalogue n) : Feed (Need (Compiled n)) → Feed (Link n)
  | .request => .request
  | .extract e => .extract e
  | .dependency d => .dependency (linkNeed catalogue d)

def linkNeed (catalogue : Catalogue n) : Need (Compiled n) → Link n
  | ⟨useCache, target⟩ =>
    let id := target.binding.handler
    { handler := id
      name := target.binding.name
      isAsync := target.binding.isAsync
      resolve := fun r =>
        let make := (Injector.ofBinding (target.link catalogue)).thenCall catalogue id r
        if useCache then resolveCached id make else make }

end

theorem linkFields_eq_map (catalogue : Catalogue n) (fs : List (Field (Need (Compiled n)))) :
    linkFields catalogue fs = fs.map (linkField catalogue) := by
  induction fs with
  | nil => simp [linkFields]
  | cons f fs ih => simp [linkFields, ih]

def Compiled.injector (c : Compiled n) (catalogue : Catalogue n) : Injector n :=
  .ofBinding (c.link catalogue)

def Compiled.fullInjector (c : Compiled n) (catalogue : Catalogue n) : Injector n :=
  .full (c.link catalogue)

end RequestBinding
