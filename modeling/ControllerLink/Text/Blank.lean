/-
# Blank characters

White space in the sense of the Unicode property White_Space, and texts with
the blanks at both ends removed.
-/
set_option autoImplicit false

namespace ControllerLink.Text

/-- Whether a character is white space. -/
def isBlank (c : Char) : Bool :=
  let n := c.toNat
  (0x9 ≤ n && n ≤ 0xd) || n == 0x20 || n == 0x85 || n == 0xa0 || n == 0x1680 ||
    (0x2000 ≤ n && n ≤ 0x200a) || n == 0x2028 || n == 0x2029 || n == 0x202f ||
    n == 0x205f || n == 0x3000

/-- Characters without the blanks at either end. -/
def trimChars (cs : List Char) : List Char :=
  ((cs.dropWhile isBlank).reverse.dropWhile isBlank).reverse

/-- A text without the blanks at either end. -/
def trim (s : String) : String :=
  String.ofList (trimChars s.toList)

theorem dropWhile_isBlank_append {lead core : List Char} (hlead : ∀ c ∈ lead, isBlank c = true)
    (hne : core ≠ []) (hfirst : ∀ c ∈ core.head?, isBlank c = false) (rest : List Char) :
    (lead ++ (core ++ rest)).dropWhile isBlank = core ++ rest := by
  rw [List.dropWhile_append_of_pos hlead]
  obtain ⟨c, core, rfl⟩ := List.exists_cons_of_ne_nil hne
  exact List.dropWhile_cons_of_neg (by simp [hfirst c rfl])

/-- Blanks at the ends are trimmed, if what they surround ends in no blank on either side. -/
theorem trimChars_append {lead core trail : List Char} (hlead : ∀ c ∈ lead, isBlank c = true)
    (htrail : ∀ c ∈ trail, isBlank c = true) (hne : core ≠ [])
    (hfirst : ∀ c ∈ core.head?, isBlank c = false)
    (hlast : ∀ c ∈ core.getLast?, isBlank c = false) :
    trimChars (lead ++ (core ++ trail)) = core := by
  have hback : ∀ c ∈ trail.reverse, isBlank c = true := fun c hc =>
    htrail c (List.mem_reverse.1 hc)
  have hturned := @dropWhile_isBlank_append trail.reverse core.reverse hback (by simpa using hne)
    (by rwa [List.head?_reverse]) []
  rw [trimChars, dropWhile_isBlank_append hlead hne hfirst, List.reverse_append,
    ← List.append_nil core.reverse, hturned, List.append_nil, List.reverse_reverse]

/-- A text is what is left of it when it is trimmed, between blanks. -/
theorem exists_trimChars (cs : List Char) :
    ∃ lead trail, cs = lead ++ (trimChars cs ++ trail) ∧ (∀ c ∈ lead, isBlank c = true) ∧
      ∀ c ∈ trail, isBlank c = true := by
  refine ⟨cs.takeWhile isBlank, ((cs.dropWhile isBlank).reverse.takeWhile isBlank).reverse, ?_,
    List.all_eq_true.1 List.all_takeWhile, fun c hc => ?_⟩
  · rw [trimChars, ← List.reverse_append, List.takeWhile_append_dropWhile, List.reverse_reverse,
      List.takeWhile_append_dropWhile]
  · exact List.all_eq_true.1 List.all_takeWhile c (List.mem_reverse.1 hc)

theorem forall_isBlank_of_trimChars_eq_nil {cs : List Char} (h : trimChars cs = []) :
    ∀ c ∈ cs, isBlank c = true := by
  obtain ⟨lead, trail, hcs, hlead, htrail⟩ := exists_trimChars cs
  rw [hcs, h, List.nil_append]
  exact List.forall_mem_append.2 ⟨hlead, htrail⟩

end ControllerLink.Text
