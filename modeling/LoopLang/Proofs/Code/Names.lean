import LoopLang.Code.Names

/-! Fresh names: a name that is taken was free before, and stays taken. -/

namespace LoopLang.Code.Names

/-- Different numbers make different names. -/
theorem numbered_injective {base : Name} {first second : Nat}
    (same : numbered base first = numbered base second) : first = second := by
  simp only [numbered, Name.text.injEq, String.append_right_inj] at same
  -- The digits of a number can be read back.
  have digits := congrArg (fun text : String => Nat.ofDigitChars 10 text.toList 0) same
  simpa using digits

/-- The search answers a free number, or it has met only names that are taken. -/
theorem freeNumber_free_or (used : List Name) (base : Name) (tries : Nat) :
    ∀ count, numbered base (freeNumber used base tries count) ∉ used ∨
      freeNumber used base tries count = count + tries + 1 ∧
        ∀ number, count < number → number ≤ count + tries → numbered base number ∈ used := by
  induction tries with
  | zero =>
    intro count
    exact .inr ⟨rfl, by omega⟩
  | succ tries ih =>
    intro count
    by_cases taken : numbered base (count + 1) ∈ used
    · have next : freeNumber used base (tries + 1) count = freeNumber used base tries
          (count + 1) := by
        simp [freeNumber, taken]
      rw [next]
      rcases ih (count + 1) with free | ⟨last, met⟩
      · exact .inl free
      · refine .inr ⟨by omega, fun number above below => ?_⟩
        -- The number just tried is taken, and so are all that the rest of the search has met.
        rcases Nat.eq_or_lt_of_le (Nat.succ_le_of_lt above) with same | later
        · exact same ▸ taken
        · exact met number later (by omega)
    · exact .inl (by simp [freeNumber, taken])

/-- Among more numbers than there are names in use, the search finds one that makes a free name. -/
theorem freeNumber_free (used : List Name) (base : Name) (count : Nat) :
    numbered base (freeNumber used base used.length count) ∉ used := by
  intro taken
  -- The search ends at a free name, or has met only used ones.
  rcases freeNumber_free_or used base used.length count with free | ⟨last, met⟩
  · exact free taken
  -- Else one name more would be in use than there are names in use.
  · have distinct : ((List.range' (count + 1) (used.length + 1)).map (numbered base)).Nodup :=
      List.Pairwise.map _ (fun _ _ different same => different (numbered_injective same))
        (List.nodup_range' 1)
    have inside : (List.range' (count + 1) (used.length + 1)).map (numbered base) ⊆ used := by
      intro name member
      obtain ⟨number, range, rfl⟩ := List.mem_map.mp member
      rw [List.mem_range'_1] at range
      by_cases last' : number = count + used.length + 1
      · rw [last', ← last]
        exact taken
      · exact met number (by omega) (by omega)
    have room := distinct.length_le_of_subset inside
    rw [List.length_map, List.length_range'] at room
    omega

/-- The name that is taken was free. -/
theorem registerName_fresh (names : Names) (base : Name) :
    (names.registerName base).1 ∉ names.used := by
  unfold registerName
  split
  · exact freeNumber_free names.used base (names.counter base)
  · rename_i free
    simpa using free

/-- Taking a name adds it to the names in use and takes no other one. -/
@[simp] theorem registerName_used (names : Names) (base : Name) :
    (names.registerName base).2.used = (names.registerName base).1 :: names.used := by
  unfold registerName
  split <;> rfl

/-- The name taken for a text is a text. -/
theorem registerName_text (names : Names) (base : String) :
    (names.registerName (.text base)).1 = .text (names.register base).1 := by
  unfold register registerName
  split <;> rfl

/-- The text that is taken was free. -/
theorem register_fresh (names : Names) (base : String) :
    Name.text (names.register base).1 ∉ names.used :=
  names.registerName_text base ▸ names.registerName_fresh (.text base)

/-- Taking a text adds it to the names in use and takes no other one. -/
@[simp] theorem register_used (names : Names) (base : String) :
    (names.register base).2.used = .text (names.register base).1 :: names.used := by
  rw [← registerName_text]
  exact names.registerName_used (.text base)

end LoopLang.Code.Names
