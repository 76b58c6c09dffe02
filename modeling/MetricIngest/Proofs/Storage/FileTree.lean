/-
  A file that is written at its end.

  `FileAt` says that a path leads to a file with a text. It is what opening the path for writing
  achieves (`fileAt_of_openAtEnd`), what is read there is the text, text that is added stands at
  the end of it (`FileAt.append`), and opening the path again changes nothing
  (`FileAt.openAtEnd_eq`).
-/
import MetricIngest.Storage.FileTree

namespace MetricIngest.FileTree

variable {t t' : FileTree} {path : String} {full other : List String} {text more : List Char}

/-! ### A file with another text -/

theorem file?_put (t : FileTree) (full : List String) (text : List Char) :
    (t.put full text).file? full = some text := by
  simp [put, file?]

theorem isDirectory_put : (t.put full text).isDirectory other = t.isDirectory other := rfl

theorem enter_eq_ok_iff : t.enter full = .ok () ↔ t.isDirectory full = true := by
  unfold enter
  split
  · simp_all
  · split <;> simp_all

/-- A way through directories stays when a file gets another text. -/
theorem walk_put {here parts : List String} {place : Place} (h : t.walk here parts = .ok place) :
    (t.put full text).walk here parts = .ok place := by
  fun_induction walk t here parts with
  | case1 => exact h
  | case2 here parts ih => exact ih h
  | case3 here parts ih => exact ih h
  | case4 here parts ih => exact ih h
  | case5 => cases h
  | case6 here part parts hempty hdot hdots hshort hlast =>
    rw [walk.eq_5 _ _ _ _ hempty hdot hdots, if_neg hshort, if_pos hlast]
    exact h
  | case7 => cases h
  | case8 here part parts hempty hdot hdots hshort hlast henter ih =>
    -- The directory on the way is still one.
    have henter' : (t.put full text).enter (here ++ [part]) = .ok () := by
      rw [enter_eq_ok_iff, isDirectory_put, ← enter_eq_ok_iff, henter]
    rw [walk.eq_5 _ _ _ _ hempty hdot hdots, if_neg hshort, if_neg hlast, henter']
    exact ih h

theorem locate_put {place : Place} (h : t.locate path = .ok place) :
    (t.put full text).locate path = .ok place := by
  unfold locate at h ⊢
  split at h
  · cases h
  · rename_i hnul
    rw [if_neg hnul]
    split at h
    · cases h
    · rename_i hsome
      rw [if_neg hsome]
      split at h
      · cases h
      · rename_i hshort
        rw [if_neg hshort]
        exact walk_put h

/-! ### A file at a path -/

/-- A path leads to a file with a text. -/
structure FileAt (t : FileTree) (path : String) (full : List String) (text : List Char) : Prop where
  located : t.locate path = .ok (.named full false)
  isDirectory_eq : t.isDirectory full = false
  file_eq : t.file? full = some text

theorem FileAt.read_eq (h : t.FileAt path full text) : t.read path = .ok text := by
  simp [read, h.located, h.isDirectory_eq, h.file_eq]

/-- Opening the path again changes nothing. -/
theorem FileAt.openAtEnd_eq (h : t.FileAt path full text) : t.openAtEnd path = .ok (full, t) := by
  simp [openAtEnd, h.located, h.isDirectory_eq, h.file_eq]

theorem FileAt.put (h : t.FileAt path full text) (more : List Char) :
    (t.put full more).FileAt path full more :=
  ⟨locate_put h.located, h.isDirectory_eq, file?_put t full more⟩

/-- **Text is added at the end.** -/
theorem FileAt.append (h : t.FileAt path full text) (more : List Char) :
    (t.append full more).FileAt path full (text ++ more) := by
  rw [FileTree.append, h.file_eq]
  exact h.put _

/-- **Opening a path for writing** keeps the text of the file, or makes an empty one. -/
theorem fileAt_of_openAtEnd (h : t.openAtEnd path = .ok (full, t')) :
    ∃ text, t'.FileAt path full text ∧
      (t.read path = .ok text ∨ t.read path = .error .notFound ∧ text = []) := by
  unfold openAtEnd at h
  split at h
  · cases h
  · cases h
  · rename_i full' slash hlocate
    split at h
    · cases h
    · rename_i hplain
      simp only [Bool.or_eq_true, not_or, Bool.not_eq_true] at hplain
      obtain ⟨rfl, hdirectory⟩ := hplain
      split at h
      · -- The file is there and is kept.
        rename_i text hfile
        cases h
        have hat : t.FileAt path full text := ⟨hlocate, hdirectory, hfile⟩
        exact ⟨text, hat, Or.inl hat.read_eq⟩
      · -- Nothing is there, and an empty file is made.
        rename_i hfile
        cases h
        refine ⟨[], ⟨locate_put hlocate, hdirectory, file?_put t full []⟩, Or.inr ⟨?_, rfl⟩⟩
        simp [read, hlocate, hdirectory, hfile]

end MetricIngest.FileTree
