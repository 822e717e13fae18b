import SafeMarkup.Interpolation
import SafeMarkup.Value.Items

/-!
# Writing values with unchecked settings

Settings that nobody has checked serve as far as the value and its site do not ask for what is wrong
with them: a separator matters where a sequence is joined, the groups where a mapping becomes
attributes.

* `UsageError` — what was asked for and is not there.
* `Settings.markupOf?`, `Settings.attributesOf?` — what a value supplies under unchecked settings.
* `Settings.serialize` — the attribute list of a collection of entries.
* `Settings.renderAt` — a value as it is written at a site.
-/

namespace SafeMarkup

/-- Why unchecked settings do not serve to write a value. -/
inductive UsageError where
  /-- A separator of this kind joins nothing. -/
  | cannotJoin (kind : String)
  /-- Markup as a separator wants more than the items. -/
  | joinsMarkupOnly
  /-- Bytes join bytes only. -/
  | joinsBytesOnly
  /-- The groups, or the entries of an attribute list, are no such collection. -/
  | collection (error : CollectionError)
  deriving DecidableEq, Repr, Inhabited

/-- The wording of the error. -/
def UsageError.message : UsageError → String
  | cannotJoin kind => "'" ++ kind ++ "' object has no attribute 'join'"
  | joinsMarkupOnly => "HTML.join() missing 1 required positional argument: 'items'"
  | joinsBytesOnly => "sequence item 0: expected a bytes-like object, str found"
  | collection error => error.message

/-- The separator for so many texts.  The texts themselves are made only after the separator has
turned out to be of a kind that joins, which is where `texts` comes in. -/
def separatorFor (separator : Value) (count : Nat) (texts : Except UsageError Unit) :
    Except UsageError String :=
  match separator with
  | .str s => texts.map fun _ => s
  | .bytes _ => texts.bind fun _ => if count = 0 then .ok "" else .error .joinsBytesOnly
  | .html _ => .error .joinsMarkupOnly
  | other => .error (.cannotJoin other.kindName)

namespace Settings

/-- The groups, which have to be a collection whose items are fit for a set. -/
def useGroups (settings : Settings) : Except UsageError (List String) :=
  settings.nestedGroups.groupNames.mapError .collection

/-- The groups, if a mapping among some values becomes attributes. -/
def useGroupsFor (settings : Settings) (values : List Value) : Except UsageError (List String) :=
  if values.any fun v => v.ownAttributes?.isNone && v.entries?.isSome then settings.useGroups
  else .ok []

/-- The attribute list that a collection of entries asks for. -/
def serialize (settings : Settings) (element : String) (entries : Value) :
    Except UsageError String := do
  let groups ← settings.useGroups
  let pairs ← entries.pairs.mapError .collection
  return SafeMarkup.serialize groups element pairs

/-- The trusted markup of a value. -/
def markupOf? (settings : Settings) (v : Value) : Except UsageError (Option String) :=
  match v.markup?, v.sequence? with
  | none, some items =>
    if items.all fun item => item.markup?.isSome then
      (separatorFor settings.markupSeparator items.length (.ok ())).map fun separator =>
        SafeMarkup.markupOf? separator v
    else .ok none
  | _, _ => .ok (SafeMarkup.markupOf? "" v)

/-- The attribute list that a value supplies for an element. -/
def attributesOf? (settings : Settings) (element : String) (v : Value) :
    Except UsageError (Option String) :=
  if v.suppliesAttributes then
    (settings.useGroupsFor [v]).map fun groups => SafeMarkup.attributesOf? groups "" element v
  else match v.sequence? with
    | none => .ok none
    | some items =>
      if items.all Value.suppliesAttributes then do
        let separator ← separatorFor settings.attributeSeparator items.length
          ((settings.useGroupsFor items).map fun _ => ())
        let groups ← settings.useGroupsFor items
        return SafeMarkup.attributesOf? groups separator element v
      else .ok none

/-- A value as it is written at a site. -/
def renderAt (settings : Settings) (v : Value) (site : Site) : Except UsageError String :=
  match site.kind with
  | .text => (settings.markupOf? v).map fun markup => markup.getD (escape v.written)
  | .startTag =>
    (settings.attributesOf? (site.element.getD "") v).map fun own => own.getD (escape v.written)
  | .attributeValue | .comment => .ok (SafeMarkup.renderAt .default v site)

end Settings

end SafeMarkup
