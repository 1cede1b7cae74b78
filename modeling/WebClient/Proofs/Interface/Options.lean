import WebClient.Proofs.Interface.Ownership

/-!
# The grammar of options

In the brackets of an attribute of a parameter stands a list of options: a text, a text behind
`name =`, or the word `encoded`, with commas between them and perhaps one behind the last.  Which
of them may stand there is a matter of the attribute.  `ParameterOption.Lists` says which tokens
are such a list, and nothing about how they are read.  Reading accepts exactly these tokens; the
last name counts, and one `encoded` is as good as several.
-/

namespace WebClient

open Source (Attribute Delimiter Token)

/-! ## Options and lists of them -/

/-- An option of a parameter. -/
inductive ParameterOption where
  | name (text : String)
  | encoded
  deriving DecidableEq, Repr

namespace ParameterOption

/-- The name that an option gives. -/
def name? : ParameterOption → Option String
  | .name text => some text
  | .encoded => none

section

variable (named encodable : Bool)

/-- The tokens are an option, where names and the word `encoded` may stand or not. -/
inductive Stands : ParameterOption → List Token → Prop where
  | text {token : Token} {text : String} (hnamed : named = true)
      (htext : token.text? = some text) : Stands (.name text) [token]
  | name {joint : Bool} {token : Token} {text : String} (hnamed : named = true)
      (htext : token.text? = some text) :
      Stands (.name text) [.word "name", .mark '=' joint, token]
  | encoded (hencodable : encodable = true) : Stands .encoded [.word "encoded"]

/-- The tokens are options with commas between them; a last comma may stand behind them. -/
inductive Lists : List ParameterOption → List Token → Prop where
  | nil : Lists [] []
  | last {option : ParameterOption} {written : List Token}
      (hoption : Stands named encodable option written) : Lists [option] written
  | cons {option : ParameterOption} {written : List Token} {joint : Bool}
      {options : List ParameterOption} {rest : List Token}
      (hoption : Stands named encodable option written) (hrest : Lists options rest) :
      Lists (option :: options) (written ++ .mark ',' joint :: rest)

end

end ParameterOption

namespace ParameterOptions

open ParameterOption (Stands Lists)

/-- What a list of options says: the name that stands last, and `encoded` if it is among them. -/
def ofList (options : List ParameterOption) : ParameterOptions where
  name := (options.filterMap ParameterOption.name?).getLast?
  encoded := options.contains .encoded

/-- One more option behind others. -/
def adding (o : ParameterOptions) : ParameterOption → ParameterOptions
  | .name text => { o with name := some text }
  | .encoded => { o with encoded := true }

theorem foldl_adding (options : List ParameterOption) (o : ParameterOptions) :
    options.foldl adding o =
      { name := (ofList options).name.or o.name
        encoded := (ofList options).encoded || o.encoded } := by
  induction options generalizing o with
  | nil => rfl
  | cons option options ih =>
      rw [List.foldl_cons, ih]
      cases option with
      | name text =>
          simp [ofList, adding, ParameterOption.name?, List.getLast?_cons, Option.or_some]
      | encoded => simp [ofList, adding, ParameterOption.name?]

/-! ## One step of reading -/

variable {named encodable : Bool} {o o' : ParameterOptions}

/-- Only a literal has a text. -/
theorem exists_literal_of_text? {token : Token} {text : String} (h : token.text? = some text) :
    ∃ written, token = .literal written := by
  cases token with
  | literal written => exact ⟨written, rfl⟩
  | word => cases h
  | mark => cases h
  | group => cases h

/-- Behind an option the tokens end, or a comma follows and then a list again. -/
theorem readComma_eq_ok {tokens : List Token} :
    readComma named encodable o tokens = .ok o' ↔
      tokens = [] ∧ o' = o ∨
        ∃ joint rest, tokens = .mark ',' joint :: rest ∧
          readFrom named encodable o rest = .ok o' := by
  constructor
  · intro h
    unfold readComma at h
    split at h
    · cases h
      exact .inl ⟨rfl, rfl⟩
    · next joint rest => exact .inr ⟨joint, rest, rfl, h⟩
    · cases h
  · rintro (⟨rfl, rfl⟩ | ⟨joint, rest, rfl, h⟩)
    · rfl
    · exact h

theorem readFrom_of_stands {option : ParameterOption} {written rest : List Token}
    (h : Stands named encodable option written) :
    readFrom named encodable o (written ++ rest) =
      readComma named encodable (o.adding option) rest := by
  cases h with
  | text hnamed htext =>
      obtain ⟨literal, rfl⟩ := exists_literal_of_text? htext
      simp [readFrom, hnamed, htext, adding]
  | name hnamed htext =>
      have hkeyword : "name" ∉ Source.keywords := by decide
      simp [readFrom, hkeyword, hnamed, htext, adding]
  | encoded hencodable =>
      have hkeyword : "encoded" ∉ Source.keywords := by decide
      simp [readFrom, hkeyword, hencodable, adding]

/-- A list of options is empty, or an option stands in front and the reader goes on behind
it. -/
theorem exists_stands_of_readFrom {tokens : List Token}
    (h : readFrom named encodable o tokens = .ok o') :
    tokens = [] ∧ o' = o ∨
      ∃ option written rest, Stands named encodable option written ∧
        tokens = written ++ rest ∧ readComma named encodable (o.adding option) rest = .ok o' := by
  unfold readFrom at h
  split at h
  · cases h
    exact .inl ⟨rfl, rfl⟩
  · next word rest =>
      split at h
      · cases h
      · split at h
        · next hencoded =>
            rw [Bool.and_eq_true, decide_eq_true_eq] at hencoded
            obtain ⟨rfl, hencodable⟩ := hencoded
            exact .inr ⟨_, _, rest, .encoded hencodable, rfl, h⟩
        · split at h
          · next hname =>
              rw [Bool.and_eq_true, decide_eq_true_eq] at hname
              obtain ⟨rfl, hnamed⟩ := hname
              split at h
              · next joint value rest =>
                  split at h
                  · next text htext =>
                      exact .inr ⟨.name text, [.word "name", .mark '=' joint, value], rest,
                        .name hnamed htext, rfl, h⟩
                  · cases h
              · cases h
          · cases h
  · next token rest _ =>
      split at h
      · next text htext => exact .inr ⟨_, _, rest, .text rfl htext, rfl, h⟩
      · cases h

/-! ## Reading lists -/

theorem readFrom_of_lists {options : List ParameterOption} {tokens : List Token}
    (h : Lists named encodable options tokens) (o : ParameterOptions) :
    readFrom named encodable o tokens = .ok (options.foldl adding o) := by
  induction h generalizing o with
  | nil => rfl
  | @last option written hoption =>
      have hread : readFrom named encodable o (written ++ []) =
          readComma named encodable (o.adding option) [] := readFrom_of_stands hoption
      rw [List.append_nil] at hread
      exact hread
  | cons hoption _ ih =>
      rw [readFrom_of_stands hoption]
      exact ih _

theorem exists_lists_of_readFrom {tokens : List Token} {o : ParameterOptions}
    (h : readFrom named encodable o tokens = .ok o') :
    ∃ options, Lists named encodable options tokens ∧ o' = options.foldl adding o := by
  -- Every option takes a token at least, and so does the comma behind it.
  induction hlength : tokens.length using Nat.strongRecOn generalizing tokens o with
  | ind length ih =>
      obtain ⟨rfl, rfl⟩ | ⟨option, written, rest, hoption, rfl, hcomma⟩ :=
        exists_stands_of_readFrom h
      · exact ⟨[], .nil, rfl⟩
      · obtain ⟨rfl, rfl⟩ | ⟨joint, more, rfl, hmore⟩ := readComma_eq_ok.1 hcomma
        · rw [List.append_nil]
          exact ⟨[option], .last hoption, rfl⟩
        · have hshorter : more.length < length := by
            rw [← hlength, List.length_append, List.length_cons]
            omega
          obtain ⟨options, hlists, rfl⟩ := ih more.length hshorter hmore rfl
          exact ⟨option :: options, .cons hoption hlists, rfl⟩

/-- Exactly the lists of options are read, for what they say. -/
theorem readFrom_eq_ok {tokens : List Token} :
    readFrom named encodable {} tokens = .ok o ↔
      ∃ options, Lists named encodable options tokens ∧ o = ofList options := by
  have hsays (options : List ParameterOption) : options.foldl adding {} = ofList options := by
    rw [foldl_adding, Option.or_none, Bool.or_false]
  constructor
  · intro h
    obtain ⟨options, hlists, rfl⟩ := exists_lists_of_readFrom h
    exact ⟨options, hlists, hsays options⟩
  · rintro ⟨options, hlists, rfl⟩
    rw [readFrom_of_lists hlists, hsays]

end ParameterOptions

/-! ## Attributes with options -/

/-- The kinds of attributes of parameters that take options. -/
inductive OptionKind where
  | path | query | queryMap | queryName | header | field | fieldMap | part
  deriving DecidableEq, Repr

namespace OptionKind

/-- The name of the attribute. -/
def attributeName : OptionKind → String
  | path => "path"
  | query => "query"
  | queryMap => "query_map"
  | queryName => "query_name"
  | header => "header"
  | field => "field"
  | fieldMap => "field_map"
  | part => "part"

/-- A name may be among the options. -/
def named : OptionKind → Bool
  | queryMap | queryName | fieldMap => false
  | path | query | header | field | part => true

/-- The word `encoded` may be among the options. -/
def encodable : OptionKind → Bool
  | header | part => false
  | path | query | queryMap | queryName | field | fieldMap => true

/-- What the attribute means for a parameter of the given name. -/
def directive (parameter : String) (o : ParameterOptions) : OptionKind → Directive
  | path => .path (o.name.getD parameter) o.encoded
  | query => .query (o.name.getD parameter) o.encoded
  | queryMap => .queryMap o.encoded
  | queryName => .queryName o.encoded
  | header => .header (o.name.getD (Marker.headerName parameter))
  | field => .field (o.name.getD parameter) o.encoded
  | fieldMap => .fieldMap o.encoded
  | part => .part (o.name.getD parameter)

/-- The options of an attribute of the kind. -/
def options (k : OptionKind) (a : Attribute) : Except InterfaceError ParameterOptions :=
  ParameterOptions.ofAttribute k.named k.encodable a

theorem bind_map_directive (x : Except InterfaceError ParameterOptions)
    (f : ParameterOptions → Directive) (others : Except InterfaceError (Option Marker)) :
    ((x.map fun o => some (f o)) >>= fun directive =>
        match directive with
        | some d => pure (some (.directive d))
        | none => others) =
      x.map fun o => some (.directive (f o)) := by
  cases x <;> rfl

/-- An attribute that takes options is a marker when these can be read. -/
theorem ofParameterAttribute_eq (k : OptionKind) {a : Attribute}
    (hname : a.path.name? = some k.attributeName) (parameter : String) :
    Marker.ofParameterAttribute a parameter =
      (k.options a).map fun o => some (.directive (k.directive parameter o)) := by
  unfold Marker.ofParameterAttribute
  rw [hname]
  cases k <;> exact bind_map_directive _ _ _

end OptionKind

open ParameterOption (Lists)

/-- The tokens in the brackets of an attribute are read as options exactly when they are a list
of options, each of which may stand there; the name is then that of the last option with a name,
and the parameter is encoded when an option says so.  Every attribute that takes options is a
marker exactly for these tokens, and its directive is made of what the list says. -/
theorem ParameterOptions.ofAttribute_eq_ok :
    (∀ (named encodable inner : Bool) (path : Source.NamePath) (d : Delimiter)
      (content : List Token) (o : ParameterOptions),
      ofAttribute named encodable ⟨inner, path, .list d content⟩ = .ok o ↔
        ∃ options, Lists named encodable options content ∧
          o.name = (options.filterMap ParameterOption.name?).getLast? ∧
          (o.encoded = true ↔ .encoded ∈ options)) ∧
    ∀ (k : OptionKind) (inner : Bool) (d : Delimiter) (content : List Token) (parameter : String)
      (marker : Option Marker),
      Marker.ofParameterAttribute ⟨inner, ⟨false, [k.attributeName]⟩, .list d content⟩ parameter =
          .ok marker ↔
        ∃ options, Lists k.named k.encodable options content ∧
          marker = some (.directive (k.directive parameter (ofList options))) := by
  constructor
  · intro named encodable inner path d content o
    have hread : ofAttribute named encodable ⟨inner, path, .list d content⟩ = .ok o ↔
        ∃ options, Lists named encodable options content ∧ o = ofList options := readFrom_eq_ok
    rw [hread]
    refine exists_congr fun options => and_congr_right fun _ => ?_
    obtain ⟨name, encoded⟩ := o
    rw [ofList, mk.injEq, Bool.eq_iff_iff, List.contains_iff_mem]
  · intro k inner d content parameter marker
    rw [k.ofParameterAttribute_eq rfl, Outcome.map_eq_ok]
    constructor
    · rintro ⟨o, ho, rfl⟩
      obtain ⟨options, hlists, rfl⟩ := readFrom_eq_ok.1 ho
      exact ⟨options, hlists, rfl⟩
    · rintro ⟨options, hlists, rfl⟩
      exact ⟨ofList options, readFrom_eq_ok.2 ⟨options, hlists, rfl⟩, rfl⟩

end WebClient
