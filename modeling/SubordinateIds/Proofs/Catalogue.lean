import SubordinateIds.Catalogue

/-
  Catalogue — what becomes of an argument

  An argument stands in its message as it was given, whatever is in it: the text that was
  put into a hole is not searched for holes again. It is enough to know that the wording
  has no opening brace before the hole, and that the hole ends it.
-/

namespace SubordinateIds.Catalogue

variable {name value before : List Char}

theorem replaceFrom_skip (hole value passed rest : List Char) :
    replaceFrom hole value passed.length (passed ++ rest) = replaceFrom hole value 0 rest := by
  induction passed with
  | nil => rfl
  | cons c passed ih => exact ih

theorem replaceFrom_placeholder (name value rest : List Char) :
    replaceFrom (placeholder name) value 0 (placeholder name ++ rest) =
      value ++ replaceFrom (placeholder name) value 0 rest := by
  have found : (placeholder name).isPrefixOf (placeholder name ++ rest) = true :=
    List.isPrefixOf_iff_prefix.mpr (List.prefix_append _ _)
  have spelled : placeholder name ++ rest = '\x7b' :: ((name ++ ['\x7d']) ++ rest) := rfl
  have length : (placeholder name).length - 1 = (name ++ ['\x7d']).length := rfl
  rw [spelled] at found ⊢
  rw [replaceFrom, if_pos found, length, replaceFrom_skip]

theorem replaceFrom_plain (plain : '\x7b' ∉ before) (name value rest : List Char) :
    replaceFrom (placeholder name) value 0 (before ++ rest) =
      before ++ replaceFrom (placeholder name) value 0 rest := by
  induction before with
  | nil => rfl
  | cons c before ih =>
    obtain ⟨other, plain⟩ := not_or.mp (fun either => plain (List.mem_cons.mpr either))
    have closed : (placeholder name).isPrefixOf (c :: (before ++ rest)) = false := by
      rw [placeholder, List.cons_append, List.isPrefixOf, beq_false_of_ne other, Bool.false_and]
    rw [List.cons_append, replaceFrom, closed, ih plain]
    rfl

/-- A message whose wording ends in its only hole is the wording before the hole, and then
the argument. -/
theorem message_eq_append {key name before : String}
    (wording : template key = before ++ "\x7b" ++ name ++ "\x7d")
    (plain : '\x7b' ∉ before.toList) (value : String) :
    message key [(name, value)] = before ++ value := by
  have spelled : (template key).toList = before.toList ++ placeholder name.toList := by
    simp [wording, placeholder]
  have filled : fill (template key).toList (name, value) = before.toList ++ value.toList := by
    have hole := replaceFrom_placeholder name.toList value.toList []
    rw [List.append_nil, replaceFrom, List.append_nil] at hole
    rw [fill, spelled, replaceFrom_plain plain, hole]
  rw [message, List.foldl_cons, List.foldl_nil, filled, String.ofList_append,
    String.ofList_toList, String.ofList_toList]

/-- An argument that looks like the hole is not taken for it. -/
example : message "workflow.failed" [("error", "\x7berror\x7d")] =
    "static-subid: " ++ "\x7berror\x7d" :=
  message_eq_append (by decide +kernel) (by decide +kernel) _

end SubordinateIds.Catalogue
