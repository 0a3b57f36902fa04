/-
  DeviceMail — properties written as arguments.

  * `Property.SpelledBy` says that an argument spells a property out: its name,
    an equals sign and its value;
  * `ofArgument_of_cut` and `ofArgument_of_equals_notMem` are the two ways in
    which an argument is read, by whether there is a place to cut it at;
  * `ofArgument_exact`: a property is read from just the arguments that spell it
    out, and all other arguments are refused as a whole.
-/
import DeviceMail.CommandLine.Value
import DeviceMail.Proofs.Cuts

namespace DeviceMail.Property

/-- The argument spells the property out.  The name is not empty and has no
    equals sign; the value may be empty and may have more of them. -/
structure SpelledBy (p : Property) (argument : String) : Prop where
  name_ne_empty : p.name ≠ ""
  equals_notMem : '=' ∉ p.name.toList
  argument_eq : argument = p.name ++ "=" ++ p.value

theorem SpelledBy.toList_eq {p : Property} {argument : String} (h : p.SpelledBy argument) :
    argument.toList = p.name.toList ++ '=' :: p.value.toList := by
  simp [h.argument_eq]

/-! ## Reading an argument -/

section
variable {argument : String}

/-- An argument is cut at its first equals sign. -/
theorem ofArgument_of_cut {name value : List Char} (hcut : argument.toList = name ++ '=' :: value)
    (hname : '=' ∉ name) :
    ofArgument argument =
      if name = [] then .error (.noProperty argument) else .ok ⟨.ofList name, .ofList value⟩ := by
  have hkind : ∀ c ∈ name, decide (c ≠ '=') := by
    intro c hc
    exact decide_eq_true fun h => hname (h ▸ hc)
  have hend : ∀ c ∈ ('=' :: value).head?, decide (c ≠ '=') = false := by simp
  rw [ofArgument, hcut, Text.takeWhile_append_of_kind hkind hend,
    Text.dropWhile_append_of_kind hkind hend]

theorem ofArgument_of_equals_notMem (h : '=' ∉ argument.toList) :
    ofArgument argument = .error (.noProperty argument) := by
  have hdrop : argument.toList.dropWhile (· ≠ '=') = [] := by
    rw [List.dropWhile_eq_nil_iff]
    intro c hc
    exact decide_eq_true fun hequals => h (hequals ▸ hc)
  rw [ofArgument, hdrop]

/-- **A property is read from an argument that spells it out.** -/
theorem ofArgument_of_spelledBy {p : Property} (h : p.SpelledBy argument) :
    ofArgument argument = .ok p := by
  have hne : p.name.toList ≠ [] := by simpa using h.name_ne_empty
  rw [ofArgument_of_cut h.toList_eq h.equals_notMem, if_neg hne, String.ofList_toList,
    String.ofList_toList]

/-- A spelled property can be cut at an equals sign, and has a name before it. -/
theorem SpelledBy.not_refused {p : Property} (h : p.SpelledBy argument) :
    ¬ ('=' ∉ argument.toList ∨ argument.toList.head? = some '=') := by
  rw [h.toList_eq]
  rintro (hmem | hhead)
  · exact hmem (List.mem_append_right _ List.mem_cons_self)
  · rcases hname : p.name.toList with _ | ⟨c, name⟩
    · exact h.name_ne_empty (by simpa using hname)
    · rw [hname] at hhead
      obtain rfl : c = '=' := by simpa using hhead
      exact h.equals_notMem (hname ▸ List.mem_cons_self)

/-- An argument spells a property out, or it is refused for one of two reasons. -/
theorem spelledBy_or_refused (argument : String) :
    (∃ p : Property, p.SpelledBy argument) ∨
      ('=' ∉ argument.toList ∨ argument.toList.head? = some '=') ∧
        ofArgument argument = .error (.noProperty argument) := by
  by_cases hmem : '=' ∈ argument.toList
  · obtain ⟨name, value, hcut, hname⟩ := List.eq_append_cons_of_mem hmem
    rcases name with _ | ⟨c, name⟩
    · exact .inr ⟨.inr (by simp [hcut]), by rw [ofArgument_of_cut hcut hname, if_pos rfl]⟩
    · refine .inl ⟨⟨.ofList (c :: name), .ofList value⟩, by simp, by simpa using hname, ?_⟩
      rw [← String.toList_inj, hcut]
      simp
  · exact .inr ⟨.inl hmem, ofArgument_of_equals_notMem hmem⟩

end

/-! ## The grammar of arguments -/

/-- **A property is read from just the arguments that spell it out**, so that an
    argument spells at most one property.  An argument is refused if it has no
    equals sign or begins with one, and only then; it is quoted as a whole in
    what is said about it. -/
theorem ofArgument_exact (argument : String) :
    (∀ p : Property, ofArgument argument = .ok p ↔ p.SpelledBy argument) ∧
      (∀ p q : Property, p.SpelledBy argument → q.SpelledBy argument → p = q) ∧
      ((∃ fault, ofArgument argument = .error fault) ↔
        '=' ∉ argument.toList ∨ argument.toList.head? = some '=') ∧
      ∀ fault, ofArgument argument = .error fault →
        fault.text = "Expected name=value, got '" ++ argument ++ "'" := by
  rcases spelledBy_or_refused argument with ⟨r, hr⟩ | ⟨hreason, herror⟩
  · have hread := ofArgument_of_spelledBy hr
    have hunique {p : Property} (hp : p.SpelledBy argument) : p = r :=
      Except.ok.inj ((ofArgument_of_spelledBy hp).symm.trans hread)
    refine ⟨fun p => ⟨fun h => ?_, ofArgument_of_spelledBy⟩, fun p q hp hq => ?_, ?_, ?_⟩
    · rw [hread] at h
      exact Except.ok.inj h ▸ hr
    · rw [hunique hp, hunique hq]
    · simp [hread, hr.not_refused]
    · simp [hread]
  · have hnone {p : Property} (hp : p.SpelledBy argument) : False := hp.not_refused hreason
    refine ⟨fun p => ⟨fun h => ?_, fun h => (hnone h).elim⟩, fun p _ hp => (hnone hp).elim, ?_, ?_⟩
    · simp [herror] at h
    · exact ⟨fun _ => hreason, fun _ => ⟨_, herror⟩⟩
    · rintro fault hfault
      rw [herror] at hfault
      rw [← Except.error.inj hfault]
      rfl

end DeviceMail.Property
