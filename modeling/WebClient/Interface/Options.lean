import WebClient.Interface.Error
import WebClient.Source.Attribute
import WebClient.Source.Literal

/-!
# Options

What stands in the brackets of attributes: texts, and options with commas between
them.
-/

namespace WebClient

open Source (Attribute Token)

/-- The text of a literal, if it is a text. -/
def Source.Token.text? : Token → Option String
  | .literal written => (Source.Literal.string? written.toList).map fun (s, _) => String.ofList s
  | _ => none

namespace Source.Attribute

/-- The only text in the brackets of an attribute. -/
def soleText (a : Attribute) : Except InterfaceError String :=
  match a.form with
  | .list _ [token] =>
      match token.text? with
      | some text => .ok text
      | none => .error .malformed
  | _ => .error .malformed

/-- Texts with commas between them; a last comma may stand behind them. -/
def readTexts : List Token → Except InterfaceError (List String)
  | [] => .ok []
  | token :: rest =>
      match token.text?, rest with
      | some text, [] => .ok [text]
      | some text, .mark ',' _ :: rest => (readTexts rest).map (text :: ·)
      | _, _ => .error .malformed

/-- The texts in the brackets of an attribute. -/
def texts (a : Attribute) : Except InterfaceError (List String) :=
  match a.form with
  | .list _ content => readTexts content
  | _ => .error .malformed

/-- An attribute with nothing behind its path. -/
def checkBare (a : Attribute) : Except InterfaceError Unit :=
  match a.form with
  | .bare => .ok ()
  | _ => .error .malformed

end Source.Attribute

/-- The options of a parameter. -/
structure ParameterOptions where
  name : Option String := none
  encoded : Bool := false
  deriving DecidableEq, Repr

namespace ParameterOptions

mutual

/-- Read options from an item on.  The last name counts. -/
def readFrom (named encodable : Bool) (o : ParameterOptions) :
    List Token → Except InterfaceError ParameterOptions
  | [] => .ok o
  | .word word :: rest =>
      if Source.keywords.contains word then .error .malformed
      else if word = "encoded" && encodable then
        readComma named encodable { o with encoded := true } rest
      else if word = "name" && named then
        match rest with
        | .mark '=' _ :: value :: rest =>
            match value.text? with
            | some text => readComma named encodable { o with name := some text } rest
            | none => .error .malformed
        | _ => .error .malformed
      else .error .unknownOption
  | token :: rest =>
      match named, token.text? with
      | true, some text => readComma named encodable { o with name := some text } rest
      | _, _ => .error .malformed

/-- Read options behind an item: nothing more, or a comma. -/
def readComma (named encodable : Bool) (o : ParameterOptions) :
    List Token → Except InterfaceError ParameterOptions
  | [] => .ok o
  | .mark ',' _ :: rest => readFrom named encodable o rest
  | _ => .error .malformed

end

/-- The options in the brackets of an attribute, where a name or the word `encoded` may
stand; without brackets there are none. -/
def ofAttribute (named encodable : Bool) (a : Attribute) :
    Except InterfaceError ParameterOptions :=
  match a.form with
  | .bare => .ok {}
  | .value _ => .error .valueOption
  | .list _ content => readFrom named encodable {} content

end ParameterOptions

/-- The name among the settings of an interface, which are all names. -/
def readServiceName : Nat → Option String → List Token → Except InterfaceError (Option String)
  | 0, _, _ => .error .malformed
  | _ + 1, name, [] => .ok name
  | fuel + 1, _, tokens =>
      match Source.NamePath.readAny.run tokens with
      | none => .error .malformed
      | some (path, rest) =>
          if !path.isName "name" then .error .unknownSetting
          else
            match rest with
            | .mark '=' _ :: value :: rest =>
                match value.text?, rest with
                | some text, [] => .ok (some text)
                | some text, .mark ',' _ :: rest => readServiceName fuel (some text) rest
                | _, _ => .error .malformed
            | _ => .error .malformed

/-- The name that the settings of an interface give. -/
def serviceName? (settings : List Token) : Except InterfaceError (Option String) :=
  readServiceName (settings.length + 1) none settings

end WebClient
