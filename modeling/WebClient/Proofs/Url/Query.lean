import WebClient.Url.Parser
import WebClient.Proofs.Outcome
import WebClient.Proofs.Percent.Alphabet

/-!
# The query and the fragment of a URL that is read

A query and a fragment are those of the reference that is read, encoded for the kind of
the scheme of the URL.  There is one exception: a reference without a query that names
nothing but the scheme of its base, if anything, leaves the query of the base where it is.

A query that is taken over comes with the scheme of the base.  So the query of a URL that
is read or resolved has only characters that may stand there, and encoding it once more
changes nothing.
-/

namespace WebClient

/-- The reference leaves the query of a base as it is: it has none of its own, and names
nothing but the scheme of the base, if anything. -/
def Reference.KeepsQuery (base : Url) (r : Reference) : Prop :=
  r.query = none ∧ (r.main = [] ∨ Url.splitScheme? r.main = some (base.scheme, []))

/-- Encoding a query neither empties it nor changes its ampersands. -/
theorem Reference.getD_encodedQuery {kind : SchemeKind} {r : Reference} {q : List Char}
    (hq : r.query = some q) :
    ((r.encodedQuery kind).getD "").toList.count '&' = q.count '&' ∧
      ((r.encodedQuery kind).getD "" = "" ↔ q = []) := by
  rw [encodedQuery, hq, Option.map_some, Option.getD_some, String.toList_ofList,
    String.ofList_eq_empty_iff, Percent.encode_eq_nil]
  exact ⟨Percent.count_encode (by cases kind.isSpecial <;> rfl) (by decide) (by decide) q,
    Iff.rfl⟩

namespace Url

/-- Where the query and the fragment of a URL come from that is read from a reference, when
the query may be taken over from some bases. -/
inductive Marked (Takes : Url → Prop) (r : Reference) (u : Url) : Prop
  | own (hquery : u.query = r.encodedQuery u.kind) (hfragment : u.fragment = r.encodedFragment)
  | taken {base : Url} (htakes : Takes base) (hnone : r.query = none)
      (hkind : u.kind = base.kind) (hquery : u.query = base.query)
      (hfragment : u.fragment = r.encodedFragment)

theorem Marked.mono {P Q : Url → Prop} {r : Reference} {u : Url} (h : Marked P r u)
    (hPQ : ∀ base, P base → Q base) : Marked Q r u := by
  cases h with
  | own hquery hfragment => exact .own hquery hfragment
  | taken htakes hnone hkind hquery hfragment =>
      exact .taken (hPQ _ htakes) hnone hkind hquery hfragment

theorem Marked.fragment_eq {P : Url → Prop} {r : Reference} {u : Url} (h : Marked P r u) :
    u.fragment = r.encodedFragment := by
  cases h <;> assumption

/-! ## Marks of its own -/

variable {P : Url → Prop}

theorem marked_of_readAuthority {scheme : String} {r : Reference} {s : List Char} :
    Outcome.Ensures (readAuthority scheme r s) (Marked P r) := by
  unfold readAuthority
  dsimp only
  -- Whatever is rejected on the way, the parts are put together at the end.
  repeat' first
    | refine Outcome.ensures_bind fun _ => ?_
    | refine Outcome.ensures_ite ?_ ?_
    | split
  all_goals exact Outcome.ensures_pure (.own rfl rfl)

theorem marked_fileUrl (host : Host) (r : Reference) (draft : UrlPath.Draft) :
    Marked P r (fileUrl host r draft) :=
  .own rfl rfl

theorem marked_withPath (base : Url) (r : Reference) (draft : UrlPath.Draft) :
    Marked P r (base.withPath r draft) :=
  .own rfl rfl

theorem marked_of_readFileAuthority {r : Reference} {s : List Char} :
    Outcome.Ensures (readFileAuthority r s) (Marked P r) := by
  unfold readFileAuthority
  refine Outcome.ensures_bind fun _ => ?_
  dsimp only
  split <;> exact Outcome.ensures_pure (marked_fileUrl _ r _)

theorem marked_readFileRoot (base : Option Url) (r : Reference) (main : List Char) :
    Marked P r (readFileRoot base r main) := by
  unfold readFileRoot
  dsimp only
  split
  · split
    · exact marked_fileUrl _ r _
    · split <;> exact marked_fileUrl _ r _
  · exact marked_fileUrl _ r _

/-- Read behind a scheme that is not a special one, a query is encoded for such a scheme. -/
theorem marked_of_readOrdinary {scheme : String} (hscheme : SchemeKind.of scheme = .ordinary)
    {r : Reference} {s : List Char} :
    Outcome.Ensures (readOrdinary scheme r s) (Marked P r) := by
  have hown (path : UrlPath) : Marked P r
      { scheme, username := "", password := "", host := none, port := none, path
        query := r.encodedQuery .ordinary
        fragment := r.encodedFragment } := by
    refine .own ?_ rfl
    rw [kind, hscheme]
  unfold readOrdinary
  dsimp only
  split
  · exact marked_of_readAuthority
  · exact Outcome.ensures_pure (hown _)
  · exact Outcome.ensures_pure (hown _)

/-! ## A query that may be the one of a base -/

theorem marked_withQuery {base : Url} (hbase : P base) (r : Reference) :
    Marked P r (base.withQuery r) := by
  cases hquery : r.query with
  | none => exact .taken hbase hquery rfl (by simp [withQuery, hquery]) rfl
  | some own =>
      have hown : (base.withQuery r).query = r.encodedQuery base.kind := by
        simp [withQuery, hquery]
      exact .own hown rfl

theorem marked_of_relative {base : Url} {r : Reference} {main : List Char} :
    Outcome.Ensures (relative base r main) (Marked (fun b => base = b ∧ main = []) r) := by
  unfold relative
  dsimp only
  split
  · exact Outcome.ensures_pure (marked_withQuery ⟨rfl, rfl⟩ r)
  · split
    · split
      · split
        · split <;> exact marked_of_readAuthority
        · exact Outcome.ensures_pure (marked_withPath base r _)
      · exact Outcome.ensures_pure (marked_withPath base r _)
    · exact Outcome.ensures_pure (marked_withPath base r _)

theorem marked_of_readFile {base : Option Url} {r : Reference} {main : List Char} :
    Outcome.Ensures (readFile base r main) (Marked (fun b => base = some b ∧ main = []) r) := by
  unfold readFile
  dsimp only
  split
  · split
    · split
      · exact marked_of_readFileAuthority
      · exact Outcome.ensures_pure (marked_readFileRoot _ r _)
    · split
      · split
        · exact Outcome.ensures_pure (marked_fileUrl _ r _)
        · exact Outcome.ensures_pure (marked_withPath _ r _)
      · exact Outcome.ensures_pure (marked_fileUrl _ r _)
  · split
    · exact Outcome.ensures_pure (marked_withQuery ⟨rfl, rfl⟩ r)
    · exact Outcome.ensures_pure (marked_fileUrl _ r _)

/-- Behind a scheme, the query of a base with the same scheme is taken over when nothing
else is there. -/
theorem marked_of_readAfterScheme {base : Option Url} {r : Reference} {scheme : String}
    {s : List Char} :
    Outcome.Ensures (readAfterScheme base r scheme s)
      (Marked (fun b => base = some b ∧ b.scheme = scheme ∧ s = []) r) := by
  unfold readAfterScheme
  dsimp only
  split
  · next hkind =>
      have hfile : scheme = "file" := by
        unfold SchemeKind.of at hkind
        split at hkind
        · assumption
        · split at hkind <;> cases hkind
      refine fun u hu => (marked_of_readFile u hu).mono fun b hb => ?_
      obtain ⟨hbase, hscheme⟩ := Option.filter_eq_some_iff.1 hb.1
      exact ⟨hbase, (of_decide_eq_true hscheme).trans hfile.symm, hb.2⟩
  · split
    · split
      · next hsame =>
          have hscheme := of_decide_eq_true (Bool.and_eq_true_iff.1 hsame).1
          refine fun u hu => (marked_of_relative u hu).mono fun b hb => ?_
          exact ⟨congrArg some hb.1, hb.1 ▸ hscheme, hb.2⟩
      · exact marked_of_readAuthority
    · exact marked_of_readAuthority
  · next hkind => exact marked_of_readOrdinary hkind

/-- The marks of a URL that is resolved are those of the reference, but for the query of
the base where the reference keeps it. -/
theorem marked_of_resolve {base : Option Url} {r : Reference} :
    Outcome.Ensures (resolve base r) (Marked (fun b => base = some b ∧ r.KeepsQuery b) r) := by
  intro u hu
  have hmain {P : Url → Prop} (hmarked : Marked P r u)
      (h : ∀ b, P b → base = some b ∧
        (r.main = [] ∨ splitScheme? r.main = some (b.scheme, []))) :
      Marked (fun b => base = some b ∧ r.KeepsQuery b) r u := by
    cases hmarked with
    | own hquery hfragment => exact .own hquery hfragment
    | taken htakes hnone hkind hquery hfragment =>
        obtain ⟨hbase, hmain⟩ := h _ htakes
        exact .taken ⟨hbase, hnone, hmain⟩ hnone hkind hquery hfragment
  unfold resolve at hu
  split at hu
  · next scheme rest hscheme =>
      refine hmain (marked_of_readAfterScheme u hu) ?_
      rintro b ⟨hbase, hsame, rfl⟩
      exact ⟨hbase, Or.inr (hsame ▸ hscheme)⟩
  · split at hu
    · cases hu
    · next base =>
        split at hu
        · split at hu
          · next hfragment =>
              simp only [Bool.and_eq_true, List.isEmpty_iff, Option.isNone_iff_eq_none] at hfragment
              cases hu
              exact .taken ⟨rfl, hfragment.1.2, Or.inl hfragment.1.1⟩ hfragment.1.2 rfl rfl rfl
          · cases hu
        · split at hu
          · exact hmain (marked_of_readFile u hu) fun b hb => ⟨hb.1, Or.inl hb.2⟩
          · exact hmain (marked_of_relative u hu) fun b hb =>
              ⟨congrArg some hb.1, Or.inl hb.2⟩

/-- A web URL that is a base has its query kept by every reference that keeps queries. -/
theorem query_of_keepsQuery {base u : Url} (hbase : base.kind = .special) {r : Reference}
    (hr : r.KeepsQuery base) (h : resolve (some base) r = .ok u) : u.query = base.query := by
  have hkept : (base.withQuery r).query = base.query := by simp [withQuery, hr.1]
  obtain ⟨hnone, hmain | hscheme⟩ := hr
  · unfold resolve at h
    rw [hmain] at h
    simp only [splitScheme?, hbase] at h
    split at h
    · split at h
      · cases h
        rfl
      · cases h
    · cases h
      exact hkept
  · rw [resolve, hscheme] at h
    have hspecial : SchemeKind.of base.scheme = .special := hbase
    simp only [readAfterScheme, hspecial, decide_true, List.takeWhile_nil, List.length_nil,
      Nat.zero_lt_two, Bool.and_self, if_true] at h
    cases h
    exact hkept

/-- The query of a URL that a web URL is resolved to is that of the reference, unless the
reference keeps the one of the base. -/
theorem query_of_resolve {base u : Url} (hbase : base.kind = .special) {r : Reference}
    (h : resolve (some base) r = .ok u) :
    r.KeepsQuery base ∧ u.query = base.query ∨
      ¬ r.KeepsQuery base ∧ u.query = r.encodedQuery u.kind := by
  by_cases hkeeps : r.KeepsQuery base
  · exact Or.inl ⟨hkeeps, query_of_keepsQuery hbase hkeeps h⟩
  · cases marked_of_resolve u h with
    | own hquery _ => exact Or.inr ⟨hkeeps, hquery⟩
    | taken htakes =>
        cases htakes.1
        exact absurd htakes.2 hkeeps

/-! ## Encoded queries -/


/-- The query has only characters that may stand in a query of a URL of this kind, as that
of every URL that is read has. -/
def HasEncodedQuery (u : Url) : Prop :=
  ∀ text, u.query = some text →
    ∀ c ∈ text.toList, Percent.isQueryChar u.kind.isSpecial c = true

theorem Marked.hasEncodedQuery {r : Reference} {u : Url} (h : Marked P r u)
    (hP : ∀ base, P base → base.HasEncodedQuery) : u.HasEncodedQuery := by
  intro text htext c hc
  cases h with
  | own hquery hfragment =>
      rw [hquery, Reference.encodedQuery, Option.map_eq_some_iff] at htext
      obtain ⟨source, -, rfl⟩ := htext
      rw [String.toList_ofList] at hc
      exact Percent.isQueryChar_of_mem_encode hc
  | taken htakes hnone hkind hquery hfragment =>
      rw [hkind]
      exact hP _ htakes text (hquery ▸ htext) c hc

/-- Resolving gives a URL with an encoded query when the base, if there is one, has an
encoded query. -/
theorem hasEncodedQuery_of_resolve {base : Option Url}
    (h : ∀ b, base = some b → b.HasEncodedQuery) {r : Reference} :
    Outcome.Ensures (resolve base r) HasEncodedQuery :=
  fun u hu => (marked_of_resolve u hu).hasEncodedQuery fun b hb => h b hb.1

theorem hasEncodedQuery_of_join? {base : Url} (hbase : base.HasEncodedQuery) {s : List Char}
    {u : Url} (h : base.join? s = .ok u) : u.HasEncodedQuery :=
  hasEncodedQuery_of_resolve (fun _ hb => Option.some.inj hb ▸ hbase) u h

end Url

end WebClient
