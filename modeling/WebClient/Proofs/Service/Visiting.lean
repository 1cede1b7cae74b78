import WebClient.Service.Generator
import WebClient.Proofs.Disk
import WebClient.Proofs.Service.Twin

/-!
# Visits of emitters

A visit calls an emitter for the start of a service, for its methods in order and for the end,
and it ends early at the first call that fails.  To say so of any emitter, its calls are watched
(`Emitter.watched`): the emitter does what it does otherwise, but beside what it has so far it
keeps the calls that it was given, and an error is marked with them.

The emitters of the listing and of the client make the same of a visit whatever they have seen
before.  With both, a generator that has a cache directory writes one file there and makes a
client, or makes none, and then it changes no file but the one of the listing
(`Generator.Caches`).
-/

namespace WebClient

namespace Emitter

/-- A call that a visit gives an emitter. -/
inductive Call where
  | start (definition : ServiceDefinition)
  | method (m : ServiceMethod)
  | finish

variable {τ α β : Type}

/-- The outcome of the last of some calls: all of them are kept beside what it has made, and the
error that it has failed with is marked with them. -/
def noted (mark : List Call → Error → Error) (asked : List Call) :
    Except Error β → Except Error (β × List Call)
  | .ok made => .ok (made, asked)
  | .error e => .error (mark asked e)

/-- The emitter with its calls watched. -/
def watched (e : Emitter τ α) (mark : List Call → Error → Error) :
    Emitter (τ × List Call) (α × List Call) where
  start definition watch :=
    noted mark (watch.2 ++ [.start definition]) (e.start definition watch.1)
  method m watch := noted mark (watch.2 ++ [.method m]) (e.method m watch.1)
  finish watch := noted mark (watch.2 ++ [.finish]) (e.finish watch.1)

section

variable (e : Emitter τ α) (mark : List Call → Error → Error) (before : List Call) (state : τ)

@[simp] theorem watched_start (definition : ServiceDefinition) :
    (e.watched mark).start definition (state, before) =
      noted mark (before ++ [.start definition]) (e.start definition state) := rfl

@[simp] theorem watched_method (m : ServiceMethod) :
    (e.watched mark).method m (state, before) =
      noted mark (before ++ [.method m]) (e.method m state) := rfl

@[simp] theorem watched_finish :
    (e.watched mark).finish (state, before) = noted mark (before ++ [.finish]) (e.finish state) :=
  rfl

end

/-- A visit of methods asks for each of them in order, or for those up to one that fails. -/
theorem visitAll_watched (e : Emitter τ α) (methods : List ServiceMethod) (state : τ)
    (before : List Call) :
    ∃ asked rest, asked ++ rest = methods.map .method ∧
      ((∃ visited, e.visitAll methods state = .ok visited) → rest = []) ∧
      ∀ mark, (e.watched mark).visitAll methods (state, before) =
        noted mark (before ++ asked) (e.visitAll methods state) := by
  -- Each method that is visited adds a call to those from before, so these are arbitrary.
  induction methods generalizing state before with
  | nil =>
      refine ⟨[], [], rfl, fun _ => rfl, fun mark => ?_⟩
      rw [List.append_nil]
      rfl
  | cons m methods ih =>
      cases hm : e.method m state with
      | error x =>
          have hends : e.visitAll (m :: methods) state = .error x := by
            rw [visitAll, Outcome.bind_of_error hm]
          refine ⟨[.method m], methods.map .method, rfl, ?_, fun mark => ?_⟩
          · rintro ⟨visited, hvisited⟩
            rw [hends] at hvisited
            cases hvisited
          · rw [hends, visitAll, watched_method, hm]
            rfl
      | ok next =>
          have hnext : e.visitAll (m :: methods) state = e.visitAll methods next := by
            rw [visitAll, Outcome.bind_of_ok hm]
          obtain ⟨asked, rest, hall, hrest, hvisit⟩ := ih next (before ++ [.method m])
          refine ⟨.method m :: asked, rest, ?_, ?_, fun mark => ?_⟩
          · rw [List.cons_append, hall, List.map_cons]
          · rwa [hnext]
          · have htail := hvisit mark
            rw [List.append_assoc, List.singleton_append, ← hnext] at htail
            rw [← htail, visitAll, watched_method, hm]
            rfl

/-- A visit calls an emitter for the start, for the methods in order and for the end; of these
calls it leaves out those behind one that fails, and only then any.  What comes of the visit is
what comes of its last call. -/
def Visits (e : Emitter τ α) (definition : ServiceDefinition) (state : τ) : Prop :=
  ∃ asked rest, asked ++ rest = definition.methods.map .method ++ [.finish] ∧
    ((∃ made, e.drive definition state = .ok made) → rest = []) ∧
    ∀ mark, (e.watched mark).drive definition (state, []) =
      noted mark (.start definition :: asked) (e.drive definition state)

theorem visits (e : Emitter τ α) (definition : ServiceDefinition) (state : τ) :
    e.Visits definition state := by
  cases hstart : e.start definition state with
  | error x =>
      have hends : e.drive definition state = .error x := by
        rw [drive, Outcome.bind_of_error hstart]
      refine ⟨[], _, rfl, ?_, fun mark => ?_⟩
      · rintro ⟨made, hmade⟩
        rw [hends] at hmade
        cases hmade
      · rw [hends, drive, watched_start, hstart]
        rfl
  | ok started =>
      obtain ⟨asked, rest, hall, hrest, hvisit⟩ :=
        e.visitAll_watched definition.methods started [.start definition]
      have hnext : e.drive definition state =
          e.visitAll definition.methods started >>= e.finish := by
        rw [drive, Outcome.bind_of_ok hstart]
      have hwatched (mark : List Call → Error → Error) :
          (e.watched mark).drive definition (state, []) =
            noted mark (.start definition :: asked) (e.visitAll definition.methods started) >>=
              (e.watched mark).finish := by
        rw [drive, watched_start, hstart]
        exact congrArg (· >>= (e.watched mark).finish) (hvisit mark)
      cases hvisited : e.visitAll definition.methods started with
      | error x =>
          rw [Outcome.bind_of_error hvisited] at hnext
          refine ⟨asked, rest ++ [.finish], ?_, ?_, fun mark => ?_⟩
          · rw [← List.append_assoc, hall]
          · rintro ⟨made, hmade⟩
            rw [hnext] at hmade
            cases hmade
          · rw [hwatched, hnext, hvisited]
            rfl
      | ok visited =>
          rw [Outcome.bind_of_ok hvisited] at hnext
          obtain rfl := hrest ⟨visited, hvisited⟩
          rw [List.append_nil] at hall
          refine ⟨asked ++ [.finish], [], ?_, fun _ => rfl, fun mark => ?_⟩
          · rw [List.append_nil, hall]
          · rw [hwatched, hnext, hvisited]
            rfl

/-! ## The listing -/

theorem visitAll_listing (methods : List ServiceMethod) (text : String) :
    listing.visitAll methods (some text) =
      .ok (some (text ++ String.join (methods.map fun m => "\n" ++ m.listing))) := by
  induction methods generalizing text with
  | nil => rw [visitAll, List.map_nil, String.join_nil, String.append_empty]
  | cons m rest ih =>
      rw [List.map_cons, String.join_cons, ← String.append_assoc, ← String.append_assoc]
      exact ih (text ++ "\n" ++ m.listing)

/-- A listing begins with what the emitter writes at the start, and then come the methods. -/
theorem listing_eq_of_start {definition : ServiceDefinition} {state : Option String}
    {head : String} (h : listing.start definition state = .ok (some head)) :
    definition.listing =
      head ++ String.join (definition.methods.map fun m => "\n" ++ m.listing) := by
  obtain rfl := Option.some.inj (Except.ok.inj h)
  rfl

/-- The emitter of listings makes the listing of the service, whatever went before. -/
theorem drive_listing (definition : ServiceDefinition) (state : Option String) :
    listing.drive definition state = .ok definition.listing := by
  obtain ⟨head, hstart⟩ : ∃ head, listing.start definition state = .ok (some head) := ⟨_, rfl⟩
  rw [listing_eq_of_start hstart]
  exact (Outcome.bind_of_ok hstart).trans
    (Outcome.bind_of_ok (visitAll_listing definition.methods head))

end Emitter

/-! ## The file of the listing -/

namespace Generator

/-- A text that is the name of a file in any directory, and leads nowhere else. -/
structure IsFileName (name : String) : Prop where
  chars : ∀ c ∈ name.toList, c.isAlphanum ∨ c = '_' ∨ c = '-' ∨ c = '.'
  notThere : name ≠ "."
  notAbove : name ≠ ".."

theorem isFileName_fileName (service : String) : IsFileName (fileName service) := by
  have htext : (fileName service).toList =
      service.toList.map (fun c => if isFileChar c then c else '_') ++ ".rivet".toList :=
    String.toList_ofList
  have hshort {name : String} (hname : name.toList.length < 6) : fileName service ≠ name := by
    rintro rfl
    rw [htext, List.length_append] at hname
    exact absurd hname (Nat.not_lt.2 (Nat.le_add_left _ _))
  refine ⟨fun c hc => ?_, hshort (by decide), hshort (by decide)⟩
  have hchar : isFileChar c = true := by
    rw [htext, List.mem_append, List.mem_map] at hc
    obtain ⟨d, -, rfl⟩ | hend := hc
    · split
      · assumption
      · rfl
    · have hall : ".rivet".toList.all isFileChar = true := rfl
      exact List.all_eq_true.1 hall c hend
  simpa [isFileChar, or_assoc] using hchar

example : fileName "../Größe/v1" = ".._Gr__e_v1.rivet" := rfl

variable {σ : Type}

/-- The outcome for a service of a generator with a cache directory: it writes the listing of
the service to a file of the directory, changes no other file, and makes the client of the
service.  If the directory does not take the file, it makes no client, and changes no file unless
writing that one stops midway. -/
def Caches (directory : List String) (definition : ServiceDefinition) (client : HttpClient σ)
    (before : Session σ) : Prop :=
  ∃ result after, (generate ⟨some directory⟩ definition client).run before = (result, after) ∧
    after.transport = before.transport ∧
    ((before.disk.Takes directory (fileName definition.name) ∧
        result = .ok ⟨definition.name, definition.base, client, definition.methods⟩ ∧
        ∀ path, after.disk.file? path =
          if path = directory ++ [fileName definition.name] then some definition.listing
          else before.disk.file? path) ∨
      (¬ before.disk.Takes directory (fileName definition.name) ∧
        ∃ fault, result = .error (.cache fault) ∧
          ((∀ path, after.disk.file? path = before.disk.file? path) ∨
            ∃ left, before.disk.Stops directory (fileName definition.name) fault left ∧
              ∀ path, after.disk.file? path =
                if path = directory ++ [fileName definition.name] then some left
                else before.disk.file? path)))

theorem run_cacheListing_of_ok {directory : List String} {definition : ServiceDefinition}
    {before : Session σ} {written : Disk}
    (h : before.disk.store directory (fileName definition.name) definition.listing =
      (.ok (), written)) :
    ∃ journal, (cacheListing ⟨some directory⟩ definition).run before =
      (.ok (), { before with disk := written, journal := journal }) := by
  refine ⟨before.journal ++ [⟨.debug, "wrote listing", [("service", .text definition.name),
    ("path", .text (pathText (directory ++ [fileName definition.name])))]⟩], ?_⟩
  simp only [cacheListing, Emitter.drive_listing, StateT.run_bind, StateT.run_get, pure_bind,
    writeListing, h]
  rfl

theorem run_cacheListing_of_error {directory : List String} {definition : ServiceDefinition}
    {before : Session σ} {fault : FileFault} {left : Disk}
    (h : before.disk.store directory (fileName definition.name) definition.listing =
      (.error fault, left)) :
    (cacheListing ⟨some directory⟩ definition).run before =
      (.error (.cache fault), { before with disk := left }) := by
  simp only [cacheListing, Emitter.drive_listing, StateT.run_bind, StateT.run_get, pure_bind,
    writeListing, h]
  rfl

/-- Generating is writing the listing first and then visiting the service for its client. -/
theorem run_generate (g : Generator) (definition : ServiceDefinition) (client : HttpClient σ)
    {before after : Session σ} {cached : Except Error Unit}
    (h : (g.cacheListing definition).run before = (cached, after)) :
    ∃ journal, (g.generate definition client).run before =
      (cached.map fun _ => ⟨definition.name, definition.base, client, definition.methods⟩,
        { after with journal := journal }) := by
  simp only [generate, StateT.run_bind, h, Emitter.drive_client]
  cases cached with
  | error e => exact ⟨after.journal, rfl⟩
  | ok done => exact ⟨_, rfl⟩

/-- Where the listing is not written there is no client, and the disk is as writing left it. -/
theorem run_generate_of_error {directory : List String} {definition : ServiceDefinition}
    {before : Session σ} {fault : FileFault} {left : Disk} (client : HttpClient σ)
    (h : before.disk.store directory (fileName definition.name) definition.listing =
      (.error fault, left)) :
    ∃ journal, (generate ⟨some directory⟩ definition client).run before =
      (.error (.cache fault), { before with disk := left, journal := journal }) :=
  run_generate _ definition client (run_cacheListing_of_error h)

theorem caches (directory : List String) (definition : ServiceDefinition)
    (client : HttpClient σ) (before : Session σ) : Caches directory definition client before := by
  by_cases htakes : before.disk.Takes directory (fileName definition.name)
  case pos =>
    obtain ⟨written, hstore, hfiles⟩ := Disk.store_of_takes htakes definition.listing
    obtain ⟨_, hcache⟩ := run_cacheListing_of_ok hstore
    obtain ⟨journal, hrun⟩ := run_generate _ definition client hcache
    exact ⟨_, _, hrun, rfl, Or.inl ⟨htakes, rfl, hfiles⟩⟩
  case neg =>
    by_cases hstops : ∃ fault left,
        before.disk.Stops directory (fileName definition.name) fault left
    case pos =>
      obtain ⟨fault, left, hstops⟩ := hstops
      obtain ⟨after, hstore, hfiles⟩ := Disk.store_of_stops hstops definition.listing
      obtain ⟨journal, hrun⟩ := run_generate_of_error client hstore
      exact ⟨_, _, hrun, rfl,
        Or.inr ⟨htakes, fault, rfl, Or.inr ⟨left, hstops, hfiles⟩⟩⟩
    case neg =>
      obtain ⟨fault, after, hstore, hfiles⟩ := Disk.store_of_not_takes htakes
        (fun fault left h => hstops ⟨fault, left, h⟩) definition.listing
      obtain ⟨journal, hrun⟩ := run_generate_of_error client hstore
      exact ⟨_, _, hrun, rfl, Or.inr ⟨htakes, fault, rfl, Or.inl hfiles⟩⟩

end Generator

/-- A service is visited in order and up to the first error, whatever the emitter.  So its
listing is listed, and its client has its methods, whatever the emitters have seen before; and
a generator writes the listing to one file of the cache directory, or else makes no client. -/
theorem ServiceDefinition.faithfully_generated (definition : ServiceDefinition) :
    (∀ (τ α : Type) (e : Emitter τ α) (state : τ), e.Visits definition state) ∧
      (∀ state, Emitter.listing.drive definition state = .ok definition.listing) ∧
      (∀ (σ : Type) (client : HttpClient σ) (parts : ClientParts),
        (Emitter.client client).drive definition parts =
          .ok ⟨definition.name, definition.base, client, definition.methods⟩) ∧
      Generator.IsFileName (Generator.fileName definition.name) ∧
      ∀ (σ : Type) (directory : List String) (client : HttpClient σ) (before : Session σ),
        Generator.Caches directory definition client before :=
  ⟨fun _ _ e => e.visits definition, Emitter.drive_listing definition,
    fun _ client => Emitter.drive_client client definition,
    Generator.isFileName_fileName definition.name,
    fun _ directory => Generator.caches directory definition⟩

end WebClient
