/-!
# Parts of texts

Taking a known beginning or ending off a text, and finding one text inside another.
-/

namespace DataModel.Text

/-- The text after the beginning `start`, if it begins so. -/
def withoutPrefix? (start s : String) : Option String :=
  if start.toList.isPrefixOf s.toList then some (String.ofList (s.toList.drop start.length))
  else none

/-- The text before the ending `suffix`, if it ends so. -/
def withoutSuffix? (suffix s : String) : Option String :=
  if suffix.toList.isSuffixOf s.toList then
    some (String.ofList (s.toList.take (s.toList.length - suffix.toList.length)))
  else none

/-- A text ends so when it is some text followed by the ending. -/
theorem withoutSuffix?_eq_some_iff {suffix s rest : String} :
    withoutSuffix? suffix s = some rest ↔ s = rest ++ suffix := by
  unfold withoutSuffix?
  constructor
  · intro h
    split at h
    case isTrue hsuffix =>
      obtain ⟨before, hbefore⟩ := List.isSuffixOf_iff_suffix.mp hsuffix
      obtain rfl := Option.some.inj h
      apply String.toList_inj.mp
      simp [← hbefore]
    case isFalse => cases h
  · rintro rfl
    simp

/-- Whether some part of the second text is the first. -/
def isPartOf (part : List Char) : List Char → Bool
  | [] => part.isEmpty
  | c :: rest => part.isPrefixOf (c :: rest) || isPartOf part rest

end DataModel.Text
