/-!
# White space

The characters of the Unicode property `White_Space`, and trimming them from the ends of a text.
-/

namespace RunEngine.Text

/-- The Unicode white space characters. -/
def isBlank (c : Char) : Bool :=
  let n := c.toNat
  (9 ≤ n && n ≤ 13) || n == 32 || n == 0x85 || n == 0xA0 || n == 0x1680 ||
    (0x2000 ≤ n && n ≤ 0x200A) || n == 0x2028 || n == 0x2029 || n == 0x202F || n == 0x205F ||
    n == 0x3000

/-- The text without its leading white space. -/
def trimStart (cs : List Char) : List Char := cs.dropWhile isBlank

/-- The text without the white space at either end. -/
def trim (cs : List Char) : List Char := (trimStart (trimStart cs).reverse).reverse

/-- `trim` on strings. -/
def trimmed (s : String) : String := String.ofList (trim s.toList)

/-! ## What is trimmed -/

variable {before cs after : List Char}

theorem trimStart_append (h : ∀ c ∈ before, isBlank c) :
    trimStart (before ++ cs) = trimStart cs :=
  List.dropWhile_append_of_pos h

theorem trimStart_eq_self (h : ∀ c ∈ cs.head?, isBlank c = false) : trimStart cs = cs := by
  cases cs with
  | nil => rfl
  | cons c rest => simp [trimStart, h c rfl]

/-- White space around a text is trimmed if the text itself neither begins nor ends with any. -/
theorem trim_append (hbefore : ∀ c ∈ before, isBlank c) (hfirst : ∀ c ∈ cs.head?, isBlank c = false)
    (hlast : ∀ c ∈ cs.getLast?, isBlank c = false) (hafter : ∀ c ∈ after, isBlank c) :
    trim (before ++ cs ++ after) = cs := by
  have hreverse : ∀ c ∈ after.reverse, isBlank c := by simpa using hafter
  have hend : trimStart cs.reverse = cs.reverse :=
    trimStart_eq_self (by rwa [List.head?_reverse])
  cases hcs : cs with
  | nil =>
    have hblank : trimStart (before ++ after) = [] := by
      rw [trimStart_append hbefore, ← List.append_nil after, trimStart_append hafter]
      rfl
    rw [trim, List.append_nil, hblank]
    rfl
  | cons c rest =>
    have hstart : trimStart (before ++ cs ++ after) = cs ++ after := by
      rw [List.append_assoc, trimStart_append hbefore, trimStart_eq_self]
      simpa [hcs] using hfirst
    rw [← hcs, trim, hstart, List.reverse_append, trimStart_append hreverse, hend,
      List.reverse_reverse]

theorem exists_trimStart (cs : List Char) :
    ∃ before, cs = before ++ trimStart cs ∧ ∀ c ∈ before, isBlank c :=
  ⟨cs.takeWhile isBlank, List.takeWhile_append_dropWhile.symm,
    List.all_eq_true.1 List.all_takeWhile⟩

theorem exists_trimEnd (cs : List Char) :
    ∃ after, trimStart cs = trim cs ++ after ∧ ∀ c ∈ after, isBlank c := by
  obtain ⟨after, hafter, hblank⟩ := exists_trimStart (trimStart cs).reverse
  refine ⟨after.reverse, ?_, by simpa using hblank⟩
  rw [trim, ← List.reverse_append, ← hafter, List.reverse_reverse]

/-- What is trimmed is white space. -/
theorem exists_trim (cs : List Char) : ∃ before after, cs = before ++ trim cs ++ after ∧
    (∀ c ∈ before, isBlank c) ∧ ∀ c ∈ after, isBlank c := by
  obtain ⟨before, hbefore, hblank⟩ := exists_trimStart cs
  obtain ⟨after, hafter, hblank'⟩ := exists_trimEnd cs
  exact ⟨before, after, by rw [List.append_assoc, ← hafter, ← hbefore], hblank, hblank'⟩

theorem isBlank_of_mem_head?_trimStart {c : Char} (h : c ∈ (trimStart cs).head?) :
    isBlank c = false := by
  have hhead := List.head?_dropWhile_not isBlank cs
  rw [trimStart, Option.mem_def] at h
  rwa [h] at hhead

theorem isBlank_of_mem_head?_trim {c : Char} (h : c ∈ (trim cs).head?) : isBlank c = false := by
  obtain ⟨after, hafter, -⟩ := exists_trimEnd cs
  have hstart : c ∈ (trimStart cs).head? := by
    rw [Option.mem_def] at h
    rw [hafter, List.head?_append, h]
    rfl
  exact isBlank_of_mem_head?_trimStart hstart

theorem isBlank_of_mem_getLast?_trim {c : Char} (h : c ∈ (trim cs).getLast?) :
    isBlank c = false := by
  rw [trim, List.getLast?_reverse] at h
  exact isBlank_of_mem_head?_trimStart h

end RunEngine.Text
