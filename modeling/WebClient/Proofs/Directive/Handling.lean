import WebClient.Directive.Registry
import WebClient.Proofs.Service.Configuring
import WebClient.Proofs.Text.Cutting

/-!
# What the standard handlers do

Each standard directive has its handler in the standard registry.  The directives
of a method set the verb, add headers or let the method answer later; a directive of
a parameter sets the one parameter that it stands for.
-/

namespace WebClient

namespace Converter

theorem eq_string {c : Converter} (h : c.capability = .string) : ∃ s, c = .string s := by
  cases c with
  | string s => exact ⟨s, rfl⟩
  | request r => cases h
  | response r => cases h

theorem eq_request {c : Converter} (h : c.capability = .requestBody) : ∃ r, c = .request r := by
  cases c with
  | string s => cases h
  | request r => exact ⟨r, rfl⟩
  | response r => cases h

theorem eq_response {c : Converter} (h : c.capability = .responseBody) :
    ∃ r, c = .response r := by
  cases c with
  | string s => cases h
  | request r => cases h
  | response r => exact ⟨r, rfl⟩

end Converter

namespace Directive

/-- The verb and the path. -/
def http? : Directive → Option (Method × Template)
  | .http method template => some (method, template)
  | _ => none

/-- The lines of headers. -/
def headerLines : Directive → List String
  | .headers lines => lines
  | _ => []

/-- The role of the parameter that a directive stands for. -/
def role? : Directive → Option Role
  | .path name encoded => some (.path name encoded)
  | .url => some .url
  | .query name encoded => some (.query name encoded)
  | .queryMap encoded => some (.queryMap encoded)
  | .queryName encoded => some (.queryName encoded)
  | .header name => some (.header name)
  | .headerMap => some .headerMap
  | .field name encoded => some (.field name encoded)
  | .fieldMap encoded => some (.fieldMap encoded)
  | .part name => some (.part name)
  | .partMap => some .partMap
  | .body => some .body
  | _ => none

/-- The parameter that a directive stands for, with the converter that it asks for. -/
def parameter? : Directive → Converter → Option Parameter
  | .path name encoded, .string c => some (.path name encoded c)
  | .url, .string c => some (.url c)
  | .query name encoded, .string c => some (.query name encoded c)
  | .queryMap encoded, .string c => some (.queryMap encoded c)
  | .queryName encoded, .string c => some (.queryName encoded c)
  | .header name, .string c => some (.header name c)
  | .headerMap, .string c => some (.headerMap c)
  | .field name encoded, .string c => some (.field name encoded c)
  | .fieldMap encoded, .string c => some (.fieldMap encoded c)
  | .part name, .request c => some (.part name c)
  | .partMap, .request c => some (.partMap c)
  | .body, .request c => some (.body c)
  | _, _ => none

theorem role_of_parameter? {d : Directive} {c : Converter} {p : Parameter}
    (h : d.parameter? c = some p) : d.role? = some p.role := by
  cases d <;> cases c <;> cases h <;> rfl

theorem isStandard_of_parameter? {d : Directive} {c : Converter} {p : Parameter}
    (h : d.parameter? c = some p) : p.isStandard = true := by
  cases d <;> cases c <;> cases h <;> rfl

/-- A standard directive of a parameter asks for a converter, and any converter of
that capability will do. -/
theorem exists_parameter? {d : Directive} (hstandard : d.isStandard = true)
    (htarget : d.target = .parameter) :
    ∃ capability, d.capability? = some capability ∧
      ∀ c : Converter, c.capability = capability → ∃ p, d.parameter? c = some p := by
  cases d with
  | http | headers | asynchronous => cases htarget
  | custom => cases hstandard
  | part | partMap | body =>
      refine ⟨.requestBody, rfl, fun c hc => ?_⟩
      obtain ⟨c, rfl⟩ := Converter.eq_request hc
      exact ⟨_, rfl⟩
  | _ =>
      refine ⟨.string, rfl, fun c hc => ?_⟩
      obtain ⟨c, rfl⟩ := Converter.eq_string hc
      exact ⟨_, rfl⟩

end Directive

namespace MethodBuilder

/-- The kind of body that a parameter declares when it is set; that there is but one
raw body is only checked in the end. -/
def declaredKind? (p : Parameter) : Option BodyKind := p.bodyKind?.filter (· ≠ .raw)

/-- Set a parameter at a place, with the kind of body that it declares. -/
def declareParameter (index : Nat) (p : Parameter) : Configure Unit :=
  match declaredKind? p with
  | some kind => do
      setBodyKind kind
      setParameter index p
  | none => setParameter index p

theorem declareParameter_eq_ok {index : Nat} {p : Parameter} {b b' : MethodBuilder} :
    (declareParameter index p).outcome b = (.ok (), b') ↔
      (∀ kind ∈ declaredKind? p, ∀ first ∈ b.bodyKind, first = kind) ∧
        index < b.arity ∧ b.parameters.lookup index = none ∧
        b' = { b with
          bodyKind := (declaredKind? p).or b.bodyKind
          parameters := b.parameters ++ [(index, p)] } := by
  unfold declareParameter
  cases declaredKind? p with
  | none =>
      rw [Option.none_or]
      constructor
      · intro h
        exact ⟨fun _ hnone => absurd hnone (by simp), setParameter_eq_ok.1 h⟩
      · rintro ⟨-, hset⟩
        exact setParameter_eq_ok.2 hset
  | some kind =>
      rw [Option.some_or]
      refine Configure.outcome_bind_eq_ok.trans ?_
      constructor
      · rintro ⟨_, mid, hdeclare, hset⟩
        obtain ⟨hsame, rfl⟩ := setBodyKind_eq_ok.1 hdeclare
        refine ⟨fun own hown => ?_, setParameter_eq_ok.1 hset⟩
        cases hown
        exact hsame
      · rintro ⟨hsame, hset⟩
        exact ⟨(), _, setBodyKind_eq_ok.2 ⟨hsame kind rfl, rfl⟩, setParameter_eq_ok.2 hset⟩

end MethodBuilder

namespace DirectiveHandler

/-! ## The handlers -/

/-- The standard handler that a directive is made for. -/
def standard? : Directive → Option DirectiveHandler
  | .http method _ => some (http method)
  | .headers _ => some headers
  | .asynchronous => some asynchronous
  | .path _ _ => some path
  | .url => some url
  | .query _ _ => some query
  | .queryMap _ => some queryMap
  | .queryName _ => some queryName
  | .header _ => some header
  | .headerMap => some headerMap
  | .field _ _ => some field
  | .fieldMap _ => some fieldMap
  | .part _ => some part
  | .partMap => some partMap
  | .body => some body
  | .custom _ => none

/-- The registry finds the handler that a directive is made for. -/
theorem get?_standard {d : Directive} (h : d.isStandard = true) :
    HandlerRegistry.standard.get? d.variant = standard? d := by
  cases d with
  | http method template => cases method <;> rfl
  | custom d => cases h
  | _ => rfl

/-- The name and the value of a header line that can be read. -/
def headerPair? (line : String) : Option (String × String) := (parseHeader line).toOption

/-- A line has a colon behind a name that is not blank; the name and the value are
trimmed. -/
def HeaderLine (line : String) (pair : String × String) : Prop :=
  ∃ name value, line.toList = name ++ ':' :: value ∧ ':' ∉ name ∧
    (∃ c ∈ name, Text.isBlank c = false) ∧
    pair = (String.ofList (Text.trimBoth Text.isBlank name),
      String.ofList (Text.trimBoth Text.isBlank value))

theorem splitOnce?_colon {s name value : List Char} :
    Text.splitOnce? (· = ':') s = some (name, value) ↔
      s = name ++ ':' :: value ∧ ':' ∉ name := by
  rw [Text.splitOnce?_eq_some]
  constructor
  · rintro ⟨c, hs, hc, hname⟩
    obtain rfl : c = ':' := of_decide_eq_true hc
    exact ⟨hs, fun hmem => by simpa using hname ':' hmem⟩
  · rintro ⟨hs, hname⟩
    refine ⟨':', hs, rfl, fun x hx => decide_eq_false ?_⟩
    rintro rfl
    exact hname hx

theorem headerPair?_eq_some {line : String} {pair : String × String} :
    headerPair? line = some pair ↔ HeaderLine line pair := by
  have hblank (name : List Char) : (Text.trimBoth Text.isBlank name).isEmpty = false ↔
      ∃ c ∈ name, Text.isBlank c = false := by
    rw [← Bool.not_eq_true, List.isEmpty_iff, Text.trimBoth_eq_nil]
    simp
  unfold headerPair? parseHeader HeaderLine
  cases hcut : Text.splitOnce? (· = ':') line.toList with
  | none =>
      constructor
      · intro h
        cases h
      · rintro ⟨name, value, hline, hname, -⟩
        rw [splitOnce?_colon.2 ⟨hline, hname⟩] at hcut
        cases hcut
  | some parts =>
      obtain ⟨name, value⟩ := parts
      obtain ⟨hline, hname⟩ := splitOnce?_colon.1 hcut
      dsimp only
      constructor
      · intro h
        cases hempty : (Text.trimBoth Text.isBlank name).isEmpty with
        | true =>
            rw [hempty, if_pos rfl] at h
            cases h
        | false =>
            rw [hempty, if_neg Bool.false_ne_true] at h
            cases h
            exact ⟨name, value, hline, hname, (hblank name).1 hempty, rfl⟩
      · rintro ⟨own, rest, hown, hcolon, hthere, rfl⟩
        rw [splitOnce?_colon.2 ⟨hown, hcolon⟩] at hcut
        cases hcut
        rw [(hblank name).2 hthere, if_neg Bool.false_ne_true]
        rfl

theorem addHeaders_eq_ok {lines : List String} {b b' : MethodBuilder} :
    (addHeaders lines).outcome b = (.ok (), b') ↔
      (∀ line ∈ lines, (headerPair? line).isSome) ∧
        b' = { b with headers := b.headers ++ lines.filterMap headerPair? } := by
  induction lines generalizing b with
  | nil =>
      rw [addHeaders, Configure.outcome_pure]
      constructor
      · intro h
        cases h
        simp
      · rintro ⟨-, rfl⟩
        simp
  | cons line lines ih =>
      rw [addHeaders]
      refine Configure.outcome_bind_eq_ok.trans ?_
      cases hline : parseHeader line with
      | error e =>
          have hpair : headerPair? line = none := by rw [headerPair?, hline]; rfl
          constructor
          · rintro ⟨_, _, hread, -⟩
            cases hread
          · rintro ⟨hall, -⟩
            have hsome := hall line List.mem_cons_self
            rw [hpair] at hsome
            cases hsome
      | ok pair =>
          have hpair : headerPair? line = some pair := by rw [headerPair?, hline]; rfl
          constructor
          · rintro ⟨_, _, hread, hrest⟩
            cases hread
            obtain ⟨_, _, hadd, hrest⟩ := Configure.outcome_bind_eq_ok.1 hrest
            cases hadd
            obtain ⟨hall, rfl⟩ := ih.1 hrest
            refine ⟨fun other hother => ?_, by simp [hpair]⟩
            rcases List.mem_cons.1 hother with rfl | hother
            · rw [hpair]
              rfl
            · exact hall other hother
          · rintro ⟨hall, rfl⟩
            refine ⟨pair, b, rfl, Configure.outcome_bind_eq_ok.2 ⟨(), _, rfl, ih.2 ⟨?_, ?_⟩⟩⟩
            · exact fun other hother => hall other (List.mem_cons_of_mem _ hother)
            · simp [hpair]

/-- A builder after the directives of a method. -/
def describe (ds : List Directive) (b : MethodBuilder) : MethodBuilder :=
  { b with
    http := b.http.or (ds.filterMap Directive.http?).head?
    headers := b.headers ++ (ds.flatMap Directive.headerLines).filterMap headerPair?
    asynchronous := b.asynchronous || decide (.asynchronous ∈ ds) }

theorem describe_nil (b : MethodBuilder) : describe [] b = b := by
  simp [describe]

theorem describe_append (ds es : List Directive) (b : MethodBuilder) :
    describe (ds ++ es) b = describe es (describe ds b) := by
  simp [describe, List.head?_append, Option.or_assoc, Bool.or_assoc]

/-- The handler of a directive of a method sets its verb and path, once, adds its
headers or lets the method answer later. -/
theorem handle_of_method {d : Directive} (hstandard : d.isStandard = true)
    (htarget : d.target = .method) :
    ∃ handler, standard? d = some handler ∧ ∀ b b' : MethodBuilder,
      ((handler.handle d none none).outcome b = (.ok (), b') ↔
        (b.http.toList ++ d.http?.toList).length ≤ 1 ∧
          (∀ line ∈ d.headerLines, (headerPair? line).isSome) ∧ b' = describe [d] b) := by
  unfold describe
  cases d with
  | http method template =>
      -- The handler for a verb is the one for that verb alone.
      refine ⟨_, rfl, fun b b' => ?_⟩
      have hhandle : ((http method).handle (.http method template) none none).outcome b =
          (MethodBuilder.setHttp method template).outcome b := by
        cases method <;> rfl
      rw [hhandle, MethodBuilder.setHttp_eq_ok]
      cases b.http with
      | none => simp [Directive.http?, Directive.headerLines]
      | some known => simp [Directive.http?]
  | headers lines =>
      refine ⟨_, rfl, fun b b' => ?_⟩
      refine addHeaders_eq_ok.trans ?_
      cases b.http <;> simp [Directive.http?, Directive.headerLines]
  | asynchronous =>
      refine ⟨_, rfl, fun b b' => ?_⟩
      have hhandle : (asynchronous.handle .asynchronous none none).outcome b =
          (.ok (), { b with asynchronous := true }) := rfl
      rw [hhandle]
      constructor
      · intro h
        cases h
        refine ⟨?_, by simp [Directive.headerLines],
          by simp [Directive.http?, Directive.headerLines]⟩
        cases b.http <;> simp [Directive.http?]
      · rintro ⟨-, -, rfl⟩
        simp [Directive.http?, Directive.headerLines]
  | custom d => cases hstandard
  | _ => cases htarget

/-- The handler of a directive of a parameter declares the parameter. -/
theorem handle_of_parameter? {d : Directive} {c : Converter} {p : Parameter}
    (h : d.parameter? c = some p) :
    ∃ handler, standard? d = some handler ∧ ∀ (index : Nat) (b : MethodBuilder),
      (handler.handle d (some c) (some index)).outcome b =
        (MethodBuilder.declareParameter index p).outcome b := by
  cases d <;> cases c <;> cases h <;> exact ⟨_, rfl, fun _ _ => rfl⟩

end DirectiveHandler

end WebClient
