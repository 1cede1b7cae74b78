import WebClient.Service.Builder
import WebClient.Proofs.Outcome

/-!
# When steps make a method

`MethodBuilder.build` checks a builder from left to right, with what it has seen
carried along.  Each check is described here by a condition on the whole list of
parameters, and `MethodBuilder.Makes` puts the conditions together.
-/

namespace WebClient

/-- All members of a list are the same. -/
def AllSame {α : Type} (l : List α) : Prop := ∀ a ∈ l, ∀ b ∈ l, a = b

theorem allSame_cons {α : Type} {a : α} {l : List α} :
    AllSame (a :: l) ↔ ∀ b ∈ l, b = a := by
  constructor
  · intro h b hb
    exact h b (List.mem_cons_of_mem _ hb) a List.mem_cons_self
  · intro h
    have hall : ∀ b ∈ a :: l, b = a := by
      intro b hb
      rcases List.mem_cons.1 hb with rfl | hb
      · rfl
      · exact h b hb
    exact fun b hb c hc => (hall b hb).trans (hall c hc).symm

theorem allSame_nil {α : Type} : AllSame ([] : List α) :=
  fun _ h => absurd h List.not_mem_nil

/-- The name of the path that a role stands for. -/
def Role.pathName? : Role → Option String
  | .path name _ => some name
  | _ => none

theorem Role.pathName?_eq_some {role : Role} {name : String} :
    role.pathName? = some name ↔ ∃ encoded, role = .path name encoded := by
  cases role <;> simp [Role.pathName?]

namespace ServiceMethod

/-- The roles of the parameters. -/
def roles (m : ServiceMethod) : List Role := m.parameters.map Parameter.role

/-- The kinds of body that the parameters need. -/
def bodyKinds (m : ServiceMethod) : List BodyKind := m.parameters.filterMap Parameter.bodyKind?

/-- The names of the path that the parameters stand for. -/
def pathNames (m : ServiceMethod) : List String := m.roles.filterMap Role.pathName?

end ServiceMethod

namespace MethodBuilder

/-! ## Single checks -/

theorem collectParameters_eq_ok {known : List (Nat × Parameter)} {index count : Nat}
    {ps : List Parameter} :
    collectParameters known index count = .ok ps ↔
      ps.length = count ∧ ∀ i < count, known.lookup (index + i) = ps[i]? := by
  -- The place that is read moves on with the index, so it is part of the induction.
  induction count generalizing index ps with
  | zero =>
      constructor
      · intro h
        cases h
        exact ⟨rfl, fun i hi => absurd hi (Nat.not_lt_zero i)⟩
      · rintro ⟨hlength, -⟩
        rw [List.length_eq_zero_iff.1 hlength]
        rfl
  | succ count ih =>
      rw [collectParameters]
      cases hfirst : known.lookup index with
      | none =>
          constructor
          · intro h
            cases h
          · rintro ⟨hlength, hall⟩
            have hzero := hall 0 (Nat.succ_pos count)
            rw [Nat.add_zero, hfirst, eq_comm, List.getElem?_eq_none_iff] at hzero
            omega
      | some p =>
          rw [Outcome.map_eq_ok]
          constructor
          · rintro ⟨rest, hrest, rfl⟩
            obtain ⟨hlength, hall⟩ := ih.1 hrest
            refine ⟨by rw [List.length_cons, hlength], fun i hi => ?_⟩
            cases i with
            | zero => exact hfirst
            | succ i =>
                have hi' := hall i (by omega)
                rw [List.getElem?_cons_succ, ← hi']
                congr 1
                omega
          · rintro ⟨hlength, hall⟩
            cases ps with
            | nil => exact absurd hlength (by simp)
            | cons q rest =>
                have hzero := hall 0 (Nat.succ_pos count)
                rw [Nat.add_zero, hfirst, List.getElem?_cons_zero] at hzero
                obtain rfl := Option.some.inj hzero
                refine ⟨rest, ih.2 ⟨Nat.succ.inj hlength, fun i hi => ?_⟩, rfl⟩
                have hi' := hall (i + 1) (by omega)
                rw [List.getElem?_cons_succ] at hi'
                rw [← hi']
                congr 1
                omega

/-- The kinds of body agree when the one seen before and those of the parameters are
all the same and at most one of them is raw. -/
theorem resolveBodyKind_eq_ok {kind result : Option BodyKind} {rawSeen : Bool} {index : Nat}
    {ps : List Parameter} :
    resolveBodyKind kind rawSeen index ps = .ok result ↔
      AllSame (kind.toList ++ ps.filterMap Parameter.bodyKind?) ∧
        (ps.filterMap Parameter.bodyKind?).count .raw + (if rawSeen then 1 else 0) ≤ 1 ∧
        result = (kind.toList ++ ps.filterMap Parameter.bodyKind?).head? := by
  -- A raw body seen before counts as one more, and the kind seen before comes first.
  induction ps generalizing kind rawSeen index with
  | nil =>
      rw [resolveBodyKind, List.filterMap_nil, List.append_nil]
      cases kind with
      | none => cases rawSeen <;> simp [allSame_nil, eq_comm]
      | some first => cases rawSeen <;> simp [allSame_cons, eq_comm]
  | cons p ps ih =>
      rw [resolveBodyKind]
      cases hp : p.bodyKind? with
      | none =>
          rw [List.filterMap_cons_none hp]
          exact ih
      | some own =>
          rw [List.filterMap_cons_some hp]
          by_cases hraw : own = .raw ∧ rawSeen = true
          · obtain ⟨rfl, rfl⟩ := hraw
            simp only [decide_true, Bool.and_self, if_true, List.count_cons_self]
            constructor
            · intro h
              cases h
            · rintro ⟨-, hcount, -⟩
              omega
          · have hcondition : (decide (own = .raw) && rawSeen) = false := by simpa using hraw
            simp only [hcondition, Bool.false_eq_true, if_false]
            have hcount : (own :: ps.filterMap Parameter.bodyKind?).count .raw +
                  (if rawSeen then 1 else 0) =
                (ps.filterMap Parameter.bodyKind?).count .raw +
                  (if (rawSeen || decide (own = .raw)) then 1 else 0) := by
              rw [List.count_cons]
              cases rawSeen <;> by_cases hown : own = .raw <;> simp_all
            cases kind with
            | none =>
                rw [hcount]
                exact ih
            | some first =>
                by_cases hsame : first = own
                · subst hsame
                  simp only [if_true]
                  rw [ih, hcount]
                  simp [allSame_cons]
                · simp only [hsame, if_false]
                  constructor
                  · intro h
                    cases h
                  · rintro ⟨hall, -⟩
                    exact absurd (hall first (by simp) own (by simp)) hsame

theorem length_urlIndices (index : Nat) (roles : List Role) :
    (urlIndices index roles).length = roles.count .url := by
  induction roles generalizing index with
  | nil => rfl
  | cons role roles ih =>
      rw [urlIndices, List.count_cons]
      by_cases hrole : role = .url
      · simp [hrole, ih]
      · simp [hrole, ih]

/-- There is at most one URL parameter, and one exactly when the path is empty. -/
theorem checkUrl_eq_ok {roles : List Role} {path : Template} :
    checkUrl roles path = .ok () ↔
      roles.count .url ≤ 1 ∧ (roles.count .url = 1 ↔ path.text = "") := by
  rw [← length_urlIndices 0 roles]
  have hempty : path.isEmpty = true ↔ path.text = "" := String.isEmpty_iff
  unfold checkUrl
  split
  · next heq => simp [heq]
  · next heq =>
      rw [heq, ← hempty]
      cases path.isEmpty <;> simp
  · next heq =>
      rw [heq, ← hempty]
      cases path.isEmpty <;> simp

theorem bindNames_eq_ok {placeholders bound result : List String} {index : Nat}
    {roles : List Role} :
    bindNames placeholders bound index roles = .ok result ↔
      result = bound ++ roles.filterMap Role.pathName? ∧
        (roles.filterMap Role.pathName?).Nodup ∧
        ∀ name ∈ roles.filterMap Role.pathName?, name ∉ bound ∧ name ∈ placeholders := by
  induction roles generalizing bound index with
  | nil => simp [bindNames, eq_comm]
  | cons role roles ih =>
      cases hrole : role.pathName? with
      | none =>
          rw [List.filterMap_cons_none hrole, ← ih]
          cases role <;> first | rfl | exact absurd hrole (by simp [Role.pathName?])
      | some name =>
          -- A name joins the bound ones, so what follows must differ from it too.
          rw [List.filterMap_cons_some hrole]
          obtain ⟨encoded, rfl⟩ := Role.pathName?_eq_some.1 hrole
          rw [bindNames]
          by_cases hbound : bound.contains name = true
          · rw [if_pos hbound]
            rw [List.contains_iff_mem] at hbound
            simp [hbound]
          · rw [if_neg hbound]
            rw [List.contains_iff_mem] at hbound
            by_cases hknown : placeholders.contains name = true
            · rw [if_neg (by simpa using hknown), ih]
              rw [List.contains_iff_mem] at hknown
              simp only [List.append_assoc, List.cons_append, List.nil_append,
                List.nodup_cons, List.mem_cons, List.mem_append, List.not_mem_nil, or_false,
                forall_eq_or_imp]
              constructor
              · rintro ⟨hresult, hnodup, hall⟩
                refine ⟨hresult, ⟨fun hmem => (hall _ hmem).1 (Or.inr rfl), hnodup⟩,
                  ⟨hbound, hknown⟩, fun other hmem => ?_⟩
                exact ⟨fun h => (hall other hmem).1 (Or.inl h), (hall other hmem).2⟩
              · rintro ⟨hresult, ⟨hfresh, hnodup⟩, -, hall⟩
                refine ⟨hresult, hnodup, fun other hmem => ⟨?_, (hall other hmem).2⟩⟩
                rintro (h | rfl)
                · exact (hall other hmem).1 h
                · exact hfresh hmem
            · rw [if_pos (by simpa using hknown)]
              rw [List.contains_iff_mem] at hknown
              simp [hknown]

/-- The path parameters stand for the names of the path, each for its own. -/
theorem checkPlaceholders_eq_ok {roles : List Role} {path : Template} :
    checkPlaceholders roles path = .ok () ↔
      (roles.filterMap Role.pathName?).Nodup ∧
        ∀ name, name ∈ roles.filterMap Role.pathName? ↔ name ∈ path.placeholders := by
  unfold checkPlaceholders
  rw [Outcome.bind_eq_ok]
  constructor
  · rintro ⟨bound, hbind, hfind⟩
    obtain ⟨rfl, hnodup, hall⟩ := bindNames_eq_ok.1 hbind
    rw [List.nil_append] at hfind
    refine ⟨hnodup, fun name => ⟨fun h => (hall name h).2, fun h => ?_⟩⟩
    split at hfind
    · exact absurd hfind (by simp)
    · next hnone =>
        have hname := List.find?_eq_none.1 hnone name h
        simpa using hname
  · rintro ⟨hnodup, hall⟩
    refine ⟨roles.filterMap Role.pathName?, bindNames_eq_ok.2 ⟨rfl, hnodup, fun name h => ?_⟩, ?_⟩
    · exact ⟨List.not_mem_nil, (hall name).1 h⟩
    · have hnone : path.placeholders.find?
          (fun name => !(roles.filterMap Role.pathName?).contains name) = none := by
        rw [List.find?_eq_none]
        intro name h
        simpa using (hall name).2 h
      rw [hnone]
      rfl

/-! ## The whole check -/

/-- What must hold of a builder and a method for the steps taken to make the method. -/
structure Makes (b : MethodBuilder) (m : ServiceMethod) : Prop where
  service : m.service = b.service
  name : m.name = b.name
  http : b.http = some (m.method, m.path)
  headers : m.headers = b.headers
  response : b.response = some (m.responseType, m.responseConverter)
  asynchronous : m.asynchronous = b.asynchronous
  length : m.parameters.length = b.arity
  places : ∀ i < b.arity, b.parameters.lookup i = m.parameters[i]?
  sameKind : AllSame (b.bodyKind.toList ++ m.bodyKinds)
  oneRaw : m.bodyKinds.count .raw ≤ 1
  bodyKind : m.bodyKind = (b.bodyKind.toList ++ m.bodyKinds).head?
  oneUrl : m.roles.count .url ≤ 1
  urlOrPath : m.roles.count .url = 1 ↔ m.path.text = ""
  names_nodup : m.pathNames.Nodup
  names_placeholders : ∀ name, name ∈ m.pathNames ↔ name ∈ m.path.placeholders

theorem finish_eq_ok {b : MethodBuilder} {m : ServiceMethod} :
    b.finish = .ok m ↔ b.Makes m := by
  constructor
  · intro h
    unfold finish at h
    cases hhttp : b.http with
    | none => simp [hhttp] at h
    | some http =>
        obtain ⟨method, path⟩ := http
        simp only [hhttp] at h
        obtain ⟨ps, hps, h⟩ := Outcome.bind_eq_ok.1 h
        obtain ⟨kind, hkind, h⟩ := Outcome.bind_eq_ok.1 h
        obtain ⟨_, hurl, h⟩ := Outcome.bind_eq_ok.1 h
        obtain ⟨_, hnames, h⟩ := Outcome.bind_eq_ok.1 h
        cases hresponse : b.response with
        | none => simp [hresponse] at h
        | some response =>
            simp only [hresponse, Outcome.pure_eq_ok] at h
            subst h
            obtain ⟨hlength, hplaces⟩ := collectParameters_eq_ok.1 hps
            obtain ⟨hsame, hraw, hresult⟩ := resolveBodyKind_eq_ok.1 hkind
            have hone : (ps.filterMap Parameter.bodyKind?).count .raw ≤ 1 := by simpa using hraw
            obtain ⟨honeUrl, hempty⟩ := checkUrl_eq_ok.1 hurl
            obtain ⟨hnodup, hbound⟩ := checkPlaceholders_eq_ok.1 hnames
            exact {
              service := rfl
              name := rfl
              http := hhttp
              headers := rfl
              response := hresponse
              asynchronous := rfl
              length := hlength
              places := fun i hi => by simpa using hplaces i hi
              sameKind := hsame
              oneRaw := hone
              bodyKind := hresult
              oneUrl := honeUrl
              urlOrPath := hempty
              names_nodup := hnodup
              names_placeholders := hbound }
  · intro h
    have hps : collectParameters b.parameters 0 b.arity = .ok m.parameters :=
      collectParameters_eq_ok.2 ⟨h.length, fun i hi => by simpa using h.places i hi⟩
    have hraw : (m.parameters.filterMap Parameter.bodyKind?).count .raw ≤ 1 := h.oneRaw
    have hkind : resolveBodyKind b.bodyKind false 0 m.parameters = .ok m.bodyKind :=
      resolveBodyKind_eq_ok.2 ⟨h.sameKind, by simpa using hraw, h.bodyKind⟩
    have hurl : checkUrl (m.parameters.map Parameter.role) m.path = .ok () :=
      checkUrl_eq_ok.2 ⟨h.oneUrl, h.urlOrPath⟩
    have hnames : checkPlaceholders (m.parameters.map Parameter.role) m.path = .ok () :=
      checkPlaceholders_eq_ok.2 ⟨h.names_nodup, h.names_placeholders⟩
    unfold finish
    simp only [h.http, h.response, ← h.service, ← h.name, ← h.headers, ← h.asynchronous]
    refine Outcome.bind_eq_ok.2 ⟨_, hps, Outcome.bind_eq_ok.2 ⟨_, hkind, ?_⟩⟩
    exact Outcome.bind_eq_ok.2 ⟨_, hurl, Outcome.bind_eq_ok.2 ⟨_, hnames, rfl⟩⟩

/-- Building succeeds with the method that the steps make. -/
theorem build_eq_ok {b : MethodBuilder} {m : ServiceMethod} :
    b.build = .ok m ↔ b.Makes m := by
  rw [build, Outcome.mapError_eq_ok, finish_eq_ok]

/-- The kinds of body that the parameters of a built method need are its own. -/
theorem Makes.bodyKind_eq {b : MethodBuilder} {m : ServiceMethod} (h : b.Makes m)
    {kind : BodyKind} (hkind : kind ∈ m.bodyKinds) : m.bodyKind = some kind := by
  have hmem : kind ∈ b.bodyKind.toList ++ m.bodyKinds := List.mem_append_right _ hkind
  rw [h.bodyKind]
  cases hall : b.bodyKind.toList ++ m.bodyKinds with
  | nil => rw [hall] at hmem; exact absurd hmem List.not_mem_nil
  | cons first rest =>
      have hsame := h.sameKind
      rw [hall] at hmem hsame
      rw [List.head?_cons, hsame first List.mem_cons_self kind hmem]

/-! ## Methods to try things on -/

/-- The steps of a method that gets a path, with the given parameters in their places. -/
def getting (path : String) (ps : List Parameter) : MethodBuilder where
  service := "Service"
  name := "call"
  arity := ps.length
  http := some (.get, ⟨path⟩)
  headers := []
  bodyKind := none
  parameters := ps.zipIdx.map Prod.swap
  response := some (⟨"String"⟩, .plainText)
  asynchronous := false

end MethodBuilder

/-- The root of the server on this machine. -/
def Url.localhost : Url :=
  ⟨"http", "", "", some (.named "localhost"), none, .rooted "/", none, none⟩

end WebClient
