import WebClient.Interface.Writing
import WebClient.Proofs.Source.Literal
import WebClient.Service.Declaration
import Mathlib.Data.List.Forall2

/-!
# What the tokens of a client say

The declaration of a service is written as an expression that builds it, one call for each
thing that is added, and a method of a client as a function whose body is one call.  The
relations here read such tokens: `ServiceDeclaration.IsWritten` says which declaration an
expression builds, and `ClientMethod.IsWritten` which call a function makes.  A text is what is
read of the literal that stands for it.
-/

namespace WebClient

open Source (Signature Token)

/-! ## Pieces of expressions -/

namespace Source.Token

variable {α : Type}

/-- The path of something from the root. -/
def rooted : List String → List Token
  | [] => []
  | name :: names => .mark ':' true :: .mark ':' false :: .word name :: rooted names

/-- A literal with the given text. -/
def IsText (text : String) (written : List Token) : Prop :=
  ∃ token, written = [token] ∧ token.text? = some text

/-- Values with commas between them. -/
inductive Lists (IsWritten : α → List Token → Prop) : List α → List Token → Prop
  | nil : Lists IsWritten [] []
  | single {a : α} {written : List Token} (ha : IsWritten a written) :
      Lists IsWritten [a] written
  | cons {a b : α} {rest : List α} {written behind : List Token} (ha : IsWritten a written)
      (hrest : Lists IsWritten (b :: rest) behind) :
      Lists IsWritten (a :: b :: rest) (written ++ .mark ',' false :: behind)

/-- Calls of one method of what stands in front, one with each of the values. -/
inductive Sends (method : String) (IsWritten : α → List Token → Prop) :
    List α → List Token → Prop
  | nil : Sends method IsWritten [] []
  | cons {a : α} {rest : List α} {written behind : List Token} (ha : IsWritten a written)
      (hrest : Sends method IsWritten rest behind) :
      Sends method IsWritten (a :: rest)
        (.mark '.' false :: .word method :: .group .parenthesis written :: behind)

/-- Values one behind the other. -/
inductive Follow (IsWritten : α → List Token → Prop) : List α → List Token → Prop
  | nil : Follow IsWritten [] []
  | cons {a : α} {rest : List α} {written behind : List Token} (ha : IsWritten a written)
      (hrest : Follow IsWritten rest behind) :
      Follow IsWritten (a :: rest) (written ++ behind)

theorem library_eq (names : List String) : library names = rooted ("rivet" :: names) := by
  have hnames : (names.flatMap fun name => marks "::" ++ [Token.word name]) = rooted names := by
    induction names with
    | nil => rfl
    | cons name names ih =>
        rw [List.flatMap_cons, ih]
        rfl
  rw [library, hnames]
  rfl

theorem isText_quote (s : String) : IsText s (quote s) := ⟨_, rfl, text?_ofText s⟩

theorem lists_commas {IsWritten : α → List Token → Prop} {write : α → List Token} {as : List α}
    (h : ∀ a ∈ as, IsWritten a (write a)) : Lists IsWritten as (commas (as.map write)) := by
  induction as with
  | nil => exact .nil
  | cons a rest ih =>
      obtain ⟨ha, hrest⟩ := List.forall_mem_cons.1 h
      cases rest with
      | nil =>
          have hsame : commas [write a] = write a := by simp [commas]
          rw [List.map_singleton, hsame]
          exact .single ha
      | cons b rest => exact .cons ha (ih hrest)

theorem sends_flatMap {β : Type} {IsWritten : α → List Token → Prop} {write : β → List Token}
    {method : String} {as : List α} {bs : List β}
    (h : List.Forall₂ (fun a b => IsWritten a (write b)) as bs) :
    Sends method IsWritten as (bs.flatMap fun b => send method [write b]) := by
  induction h with
  | nil => exact .nil
  | @cons a b as bs ha hrest ih =>
      have hsame : send method [write b] =
          [.mark '.' false, .word method, .group .parenthesis (write b)] := by
        simp [send, call, commas, inside, marks, marksOf]
      rw [List.flatMap_cons, hsame]
      exact .cons ha ih

theorem follow_flatMap {IsWritten : α → List Token → Prop} {write : α → List Token} {as : List α}
    (h : ∀ a ∈ as, IsWritten a (write a)) : Follow IsWritten as (as.flatMap write) := by
  induction as with
  | nil => exact .nil
  | cons a rest ih =>
      obtain ⟨ha, hrest⟩ := List.forall_mem_cons.1 h
      exact .cons ha (ih hrest)

end Source.Token

open Source.Token

/-! ## Directives -/

/-- The verbs and what they are called in the library. -/
def Method.variants : List (Method × String) := [
  (.get, "Get"), (.post, "Post"), (.put, "Put"), (.delete, "Delete"), (.patch, "Patch"),
  (.head, "Head"), (.options, "Options")]

namespace Directive

/-- The directives that say nothing more, and what they are called in the library. -/
def bareVariants : List (Directive × String) := [
  (.asynchronous, "Async"), (.url, "Url"), (.headerMap, "HeaderMap"), (.partMap, "PartMap"),
  (.body, "Body")]

/-- The directives with a name. -/
def namedVariants : List ((String → Directive) × String) := [(.header, "Header"), (.part, "Part")]

/-- The directives that may say that texts are encoded already. -/
def encodableVariants : List ((Bool → Directive) × String) := [
  (.queryMap, "QueryMap"), (.queryName, "QueryName"), (.fieldMap, "FieldMap")]

/-- The directives with a name that may say so too. -/
def namedEncodableVariants : List ((String → Bool → Directive) × String) := [
  (.path, "Path"), (.query, "Query"), (.field, "Field")]

/-- The call that makes a directive. -/
def created (variant : String) (arguments : List Token) : List Token :=
  rooted ["rivet", "annotation", variant, "new"] ++ [.group .parenthesis arguments]

/-- The call that says that texts are encoded already, where they are. -/
def encodedCall : Bool → List Token
  | true => [.mark '.' false, .word "encoded", .group .parenthesis []]
  | false => []

/-- The expression that is a directive. -/
inductive IsWritten : Directive → List Token → Prop
  | http {method : Method} {verb path : String} {text : List Token}
      (hverb : (method, verb) ∈ Method.variants) (hpath : IsText path text) :
      IsWritten (.http method ⟨path⟩)
        (created "Http" (rooted ["rivet", "Method", verb] ++ .mark ',' false :: text))
  | headers {lines : List String} {texts : List Token} (hlines : Lists IsText lines texts) :
      IsWritten (.headers lines) (created "Headers" [.group .bracket texts])
  | bare {d : Directive} {variant : String} (hvariant : (d, variant) ∈ bareVariants) :
      IsWritten d (rooted ["rivet", "annotation", variant])
  | named {make : String → Directive} {variant name : String} {text : List Token}
      (hvariant : (make, variant) ∈ namedVariants) (hname : IsText name text) :
      IsWritten (make name) (created variant text)
  | encodable {make : Bool → Directive} {variant : String} {encoded : Bool}
      (hvariant : (make, variant) ∈ encodableVariants) :
      IsWritten (make encoded) (created variant [] ++ encodedCall encoded)
  | namedEncodable {make : String → Bool → Directive} {variant name : String} {encoded : Bool}
      {text : List Token} (hvariant : (make, variant) ∈ namedEncodableVariants)
      (hname : IsText name text) :
      IsWritten (make name encoded) (created variant text ++ encodedCall encoded)

theorem isWritten_tokens {d : Directive} (h : d.isStandard = true) : d.IsWritten d.tokens := by
  have hbare {d : Directive} {variant : String} (hvariant : (d, variant) ∈ bareVariants) :
      d.IsWritten (library ["annotation", variant]) := library_eq _ ▸ .bare hvariant
  cases d with
  | http method path =>
      have hverb : (method, method.title) ∈ Method.variants := by cases method <;> decide
      exact .http hverb (isText_quote path.text)
  | headers lines => exact .headers (lists_commas fun line _ => isText_quote line)
  | asynchronous | url | headerMap | partMap | body => exact hbare (by simp [bareVariants])
  | header name =>
      exact @IsWritten.named .header "Header" _ _ (by simp [namedVariants]) (isText_quote name)
  | part name =>
      exact @IsWritten.named .part "Part" _ _ (by simp [namedVariants]) (isText_quote name)
  | queryMap encoded =>
      cases encoded <;>
        exact @IsWritten.encodable .queryMap "QueryMap" _ (by simp [encodableVariants])
  | queryName encoded =>
      cases encoded <;>
        exact @IsWritten.encodable .queryName "QueryName" _ (by simp [encodableVariants])
  | fieldMap encoded =>
      cases encoded <;>
        exact @IsWritten.encodable .fieldMap "FieldMap" _ (by simp [encodableVariants])
  | path name encoded =>
      cases encoded <;>
        exact @IsWritten.namedEncodable .path "Path" _ _ _ (by simp [namedEncodableVariants])
          (isText_quote name)
  | query name encoded =>
      cases encoded <;>
        exact @IsWritten.namedEncodable .query "Query" _ _ _ (by simp [namedEncodableVariants])
          (isText_quote name)
  | field name encoded =>
      cases encoded <;>
        exact @IsWritten.namedEncodable .field "Field" _ _ _ (by simp [namedEncodableVariants])
          (isText_quote name)
  | custom d => cases h

end Directive

/-! ## Declarations -/

/-- The expression that builds the declaration of a parameter. -/
inductive ParameterDeclaration.IsWritten : ParameterDeclaration → List Token → Prop
  | new {name type : String} {directives : List Directive} {nameText typeText added : List Token}
      (hname : IsText name nameText) (htype : IsText type typeText)
      (hdirectives : Sends "annotate" Directive.IsWritten directives added) :
      IsWritten ⟨name, TypeName.ofText type, directives⟩
        (rooted ["rivet", "ParameterDeclaration", "new"] ++
          .group .parenthesis (nameText ++ .mark ',' false :: typeText) :: added)

/-- The expression that builds the declaration of a method. -/
inductive MethodDeclaration.IsWritten : MethodDeclaration → List Token → Prop
  | new {name returns : String} {directives : List Directive}
      {parameters : List ParameterDeclaration} {nameText returnsText added taken : List Token}
      (hname : IsText name nameText) (hreturns : IsText returns returnsText)
      (hdirectives : Sends "annotate" Directive.IsWritten directives added)
      (hparameters : Sends "parameter" ParameterDeclaration.IsWritten parameters taken) :
      IsWritten ⟨name, directives, parameters, TypeName.ofText returns⟩
        (rooted ["rivet", "MethodDeclaration", "new"] ++
          .group .parenthesis nameText :: (added ++ (taken ++
            [.mark '.' false, .word "returns", .group .parenthesis returnsText])))

/-- The expression that builds the declaration of a service. -/
inductive ServiceDeclaration.IsWritten : ServiceDeclaration → List Token → Prop
  | new {name : String} {methods : List MethodDeclaration} {nameText declared : List Token}
      (hname : IsText name nameText)
      (hmethods : Sends "method" MethodDeclaration.IsWritten methods declared) :
      IsWritten ⟨name, methods⟩
        (rooted ["rivet", "ServiceDeclaration", "new"] ++
          .group .parenthesis nameText :: declared)

theorem Marker.sends_additions {directives : List Directive}
    (h : ∀ d ∈ directives, d.isStandard = true) :
    Sends "annotate" Directive.IsWritten directives
      (Marker.additions (directives.map Marker.directive)) := by
  refine sends_flatMap ?_
  rw [List.forall₂_map_right_iff, List.forall₂_same]
  exact fun d hd => Directive.isWritten_tokens (h d hd)

/-! ## Functions -/

namespace ClientMethod

/-- The expression that hands on a parameter. -/
def IsHanded (name : String) (written : List Token) : Prop :=
  written = rooted ["rivet", "to_argument"] ++
    [.group .parenthesis [.mark '&' false, .word name], .mark '?' false]

/-- The call of a method of the service, with a name and arguments. -/
def serviceCall (method : String) (name arguments : List Token) : List Token :=
  [.word "self", .mark '.' false, .word "service", .mark '.' false, .word method,
    .group .parenthesis (name ++ [.mark ',' false, .mark '&' false, .group .bracket arguments])]

/-- The function whose body is the call of a client method. -/
inductive IsWritten : ClientMethod → List Token → Prop
  | call {signature : Signature} {name : String} {arguments : List String}
      {nameText handed : List Token} (hname : IsText name nameText)
      (harguments : Lists IsHanded arguments handed) :
      IsWritten ⟨signature, name, arguments, false⟩
        (signature.tokens ++ [.group .brace
          (serviceCall "call" nameText handed ++ [.mark '.' false, .word "await"])])
  | callDeferred {signature : Signature} {name : String} {arguments : List String}
      {nameText handed : List Token} (hname : IsText name nameText)
      (harguments : Lists IsHanded arguments handed) :
      IsWritten ⟨signature, name, arguments, true⟩
        (signature.tokens ++ [.group .brace (serviceCall "call_deferred" nameText handed)])

theorem isWritten_tokens (c : ClientMethod) : c.IsWritten c.tokens := by
  obtain ⟨signature, name, arguments, deferred⟩ := c
  have hhanded : Lists IsHanded arguments (commas (arguments.map fun name =>
      Source.Token.call (library ["to_argument"]) [reference [.word name]] ++ marks "?")) := by
    refine lists_commas fun argument _ => ?_
    rw [IsHanded, library_eq]
    rfl
  cases deferred with
  | true => exact .callDeferred (isText_quote name) hhanded
  | false => exact .call (isText_quote name) hhanded

end ClientMethod

/-! ## Clients -/

/-- The structure of a client, which holds the service, and its own methods. -/
def structureItems (client : String) (shown : List Token) : List Token :=
  [.word "struct", .word client, .group .brace
      ([.word "service", .mark ':' false] ++ rooted ["rivet", "GeneratedService"] ++
        [.mark ',' false]),
    .word "impl", .word client, .group .brace shown]

/-- The functions that give the declaration of the service and make a client of a service. -/
def serviceItems (client : String) (expression : List Token) : List Token :=
  .word "impl" :: rooted ["rivet", "ServiceInterface"] ++
    [.word "for", .word client, .group .brace (
    [.word "fn", .word "declaration", .group .parenthesis [], .mark '-' true, .mark '>' false] ++
      rooted ["rivet", "ServiceDeclaration"] ++ [.group .brace expression] ++
    [.word "fn", .word "from_service", .group .parenthesis
        ([.word "service", .mark ':' false] ++ rooted ["rivet", "GeneratedService"]),
      .mark '-' true, .mark '>' false, .word "Self",
      .group .brace [.word "Self", .group .brace [.word "service"]]])]

/-- The tokens end with a client of a trait: its structure, the declaration of its service, and
the methods of the trait, which call the service. -/
inductive Implements (traitName : String) (declaration : ServiceDeclaration)
    (methods : List ClientMethod) : List Token → Prop
  | ends {front shown expression functions : List Token} {client : String}
      (hdeclaration : declaration.IsWritten expression)
      (hmethods : Follow ClientMethod.IsWritten methods functions) :
      Implements traitName declaration methods
        (front ++ structureItems client shown ++ serviceItems client expression ++
          [.word "impl", .word traitName, .word "for", .word client, .group .brace functions])

namespace InterfaceClient

theorem exists_structureTokens (c : InterfaceClient) :
    ∃ front shown, c.structureTokens = front ++ structureItems c.structureName shown := by
  unfold structureTokens
  dsimp only
  rw [List.append_assoc, List.append_assoc, List.append_assoc, serviceType, library_eq]
  exact ⟨_, _, rfl⟩

theorem declarationTokens_eq (c : InterfaceClient) :
    c.declarationTokens = serviceItems c.structureName
      (rooted ["rivet", "ServiceDeclaration", "new"] ++ .group .parenthesis (quote c.serviceName) ::
        c.declared.flatMap fun m => send "method" [m.tokens]) := by
  rw [declarationTokens, serviceType, library_eq, library_eq, library_eq, library_eq]
  rfl

theorem implements_tokens (c : InterfaceClient) {declaration : ServiceDeclaration}
    (hname : declaration.name = c.serviceName)
    (hmethods : List.Forall₂ (fun (m : MethodDeclaration) (d : DeclaredMethod) =>
      m.IsWritten d.tokens) declaration.methods c.declared) :
    Implements c.plain.name declaration c.methods c.tokens := by
  have hexpression := ServiceDeclaration.IsWritten.new (isText_quote declaration.name)
    (sends_flatMap hmethods)
  have hfunctions : Follow ClientMethod.IsWritten c.methods
      (c.methods.flatMap ClientMethod.tokens) :=
    follow_flatMap fun m _ => m.isWritten_tokens
  obtain ⟨front, shown, hstructure⟩ := c.exists_structureTokens
  rw [tokens, hstructure, declarationTokens_eq, ← hname, ← List.append_assoc]
  exact .ends hexpression hfunctions

end InterfaceClient

end WebClient
