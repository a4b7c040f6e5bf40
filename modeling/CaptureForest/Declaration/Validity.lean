import CaptureForest.Declaration.Children
/-!
# Validity of one declaration

The rules on a single declaration, checked in a fixed order: keys, name, and then either the rules on
parents (no attributes of their own, well-shaped children) or the rules on leaves (`olp` and `template`
hold texts, `template-file` a path). The first rule that is violated gives the error.
-/

namespace CaptureForest

namespace Declaration

/-- The keys of a declaration, if they are a text that is not empty. -/
def keys? (node : Declaration) : Option String := node.keys.text?.filter (· ≠ "")

/-- The attributes of a parent that only a leaf may carry. -/
def extraAttributes (node : Declaration) : List Value :=
  (Pairs.keys node.attributes).filter fun name => !name.isAmong Keyword.structural

/-- The texts of names; a name that is no text cannot be listed in a message. -/
def listNames (names : List Value) : Except Fault (List String) :=
  match names.mapM Value.text? with
  | some words => .ok words
  | none => .error .wrongType

/-- The rules on a declaration with children. -/
def checkParent (node : Declaration) : Except Fault Unit :=
  match node.extraAttributes with
  | [] =>
    match node.childList with
    | .ok _ => .ok ()
    | .error e => .error (.capture e)
  | extra =>
    match listNames extra with
    | .ok words => .error (.capture (.parentShape node.name extra words))
    | .error e => .error e

/-- The attribute holds a text or a list of texts, if it is set. -/
def checkTexts (node : Declaration) (word : String) : Except Fault Unit :=
  let value := node.get word
  if value.isSet && !value.isTextOrTexts then .error (.capture (.textOrTexts node.name (.str word) value))
  else .ok ()

def isPathLike : Value → Bool
  | .path _ => true
  | v => v.isText

/-- The rules on a declaration without children. -/
def checkLeaf (node : Declaration) : Except Fault Unit :=
  match node.checkTexts "olp" with
  | .error e => .error e
  | .ok () =>
    match node.checkTexts "template" with
    | .error e => .error e
    | .ok () =>
      let file := node.get "template-file"
      if file.isSet && !isPathLike file then
        .error (.capture (.textOrTexts node.name (.str "template-file") file))
      else .ok ()

/-- Checks one declaration below the given ancestors, root first. -/
def validate (node : Declaration) (ancestors : List Declaration) : Except Fault Unit :=
  match node.keys? with
  | none => .error (.capture (.missingKeys node.name (node.path ancestors)))
  | some _ =>
    if node.name.isAbsent then .error (.capture (.missingName node.name (node.path ancestors)))
    else if node.hasChildren then node.checkParent
    else node.checkLeaf

end Declaration

end CaptureForest
