import ContextSlice.Document.Path

/-!
# Reading a path back from its text

The text of a path tells where its base ends and what its steps are, as long as neither the base nor a
name in the path has one of the characters with which a step begins (`renderPath_injective`). Up to the
next such character a text is the base, or the rest of a step (`eq_of_append_eq`), and a step is known
from its own text (`PathPart.render_injective`).
-/

namespace ContextSlice

/-- Whether a step of a path begins with a character. -/
def opensStep (c : Char) : Bool := c = '.' || c = '['

/-- A text is plain if it has no character with which a step begins. -/
def PlainText (s : String) : Prop := '.' ∉ s.toList ∧ '[' ∉ s.toList

instance (s : String) : Decidable (PlainText s) :=
  inferInstanceAs (Decidable ('.' ∉ s.toList ∧ '[' ∉ s.toList))

/-- No character of a plain text opens a step. -/
theorem opensStep_eq_false_of_plainText {s : String} (h : PlainText s) :
    ∀ c ∈ s.toList, opensStep c = false := by
  intro c hc
  have hpoint : c ≠ '.' := fun hp => h.1 (hp ▸ hc)
  have hbracket : c ≠ '[' := fun hb => h.2 (hb ▸ hc)
  simp [opensStep, hpoint, hbracket]

/-- Some characters end where a step may begin. -/
def AtStep (rest : List Char) : Prop := ∀ c ∈ rest.head?, opensStep c = true

/-- A name ends where the next step begins. -/
theorem takeWhile_append_of_atStep {cs rest : List Char} (hc : ∀ c ∈ cs, opensStep c = false)
    (hr : AtStep rest) : (cs ++ rest).takeWhile (fun c => !opensStep c) = cs := by
  have hrest : rest.takeWhile (fun c => !opensStep c) = [] := by
    cases rest with
    | nil => rfl
    | cons c rest => simp [hr c rfl]
  rw [List.takeWhile_append_of_pos (by simpa using hc), hrest, List.append_nil]

/-- What stands before the first step can be told from the steps. -/
theorem eq_of_append_eq {cs ds rest more : List Char} (hc : ∀ c ∈ cs, opensStep c = false)
    (hd : ∀ c ∈ ds, opensStep c = false) (hr : AtStep rest) (hm : AtStep more)
    (h : cs ++ rest = ds ++ more) : cs = ds ∧ rest = more := by
  have hsame : cs = ds := by
    rw [← takeWhile_append_of_atStep hc hr, h, takeWhile_append_of_atStep hd hm]
  subst hsame
  exact ⟨rfl, List.append_cancel_left h⟩

namespace PathPart

/-- A step that can be told from those after it: a position, or a member with a plain name. -/
def Plain : PathPart → Prop
  | .member name => PlainText name
  | .position _ => True
  | .other _ => False

/-- The text of a plain step begins as steps do, and no other step begins in it. -/
theorem toList_render {part : PathPart} (h : part.Plain) :
    ∃ opening body, part.render.toList = opening :: body ∧ opensStep opening = true ∧
      ∀ c ∈ body, opensStep c = false := by
  cases part with
  | member name =>
    refine ⟨'.', name.toList, ?_, rfl, opensStep_eq_false_of_plainText h⟩
    rw [render, String.toList_append]
    rfl
  | position n =>
    refine ⟨'[', Nat.toDigits 10 n ++ [']'], ?_, rfl, fun c hc => ?_⟩
    · rw [render, String.toList_append, String.toList_append, Nat.toString_eq_repr, Nat.toList_repr]
      rfl
    · rcases List.mem_append.mp hc with hc | hc
      · have hdigit : c.isDigit = true := Nat.isDigit_of_mem_toDigits (by decide) (by decide) hc
        have hpoint : c ≠ '.' := by
          rintro rfl
          cases hdigit
        have hbracket : c ≠ '[' := by
          rintro rfl
          cases hdigit
        simp [opensStep, hpoint, hbracket]
      · rw [List.mem_singleton.mp hc]
        rfl
  | other value => exact h.elim

/-- A plain step is known from its text. -/
theorem render_injective {part other : PathPart} (hp : part.Plain) (ho : other.Plain)
    (h : part.render = other.render) : part = other := by
  have hchars : part.render.toList = other.render.toList := congrArg String.toList h
  cases part with
  | member name =>
    cases other with
    | member other =>
      rw [render, render, String.append_right_inj] at h
      rw [h]
    | position n => simp [render] at hchars
    | other value => exact ho.elim
  | position n =>
    cases other with
    | member other => simp [render] at hchars
    | position m =>
      rw [render, render, String.append_left_inj, String.append_right_inj] at h
      have hnumber : Nat.ofDigitChars 10 (toString n).toList 0 =
          Nat.ofDigitChars 10 (toString m).toList 0 := by rw [h]
      rw [Nat.toString_eq_repr, Nat.toString_eq_repr, Nat.toList_repr, Nat.toList_repr,
        Nat.ofDigitChars_ten_toDigits, Nat.ofDigitChars_ten_toDigits] at hnumber
      rw [hnumber]
    | other value => exact ho.elim
  | other value => exact hp.elim

end PathPart

/-- A path after another one. -/
theorem renderPath_renderPath (base : String) (path more : List PathPart) :
    renderPath (renderPath base path) more = renderPath base (path ++ more) := by
  rw [renderPath, renderPath, renderPath, List.map_append, String.join_append, String.append_assoc]

/-- A path is written part by part. -/
theorem toList_renderPath (base : String) (path : List PathPart) :
    (renderPath base path).toList = base.toList ++ path.flatMap fun part => part.render.toList := by
  rw [renderPath, String.toList_append, String.toList_join, List.flatMap_map]

/-- What is written of a path begins with a step. -/
theorem atStep_flatMap {path : List PathPart} (hp : ∀ part ∈ path, part.Plain) :
    AtStep (path.flatMap fun part => part.render.toList) := by
  cases path with
  | nil => exact fun _ hc => by cases hc
  | cons part path =>
    obtain ⟨opening, body, hrender, hopens, -⟩ := PathPart.toList_render (hp part List.mem_cons_self)
    rw [List.flatMap_cons, hrender]
    intro c hc
    cases hc
    exact hopens

/-- Plain steps are known from their text. -/
theorem flatMap_render_injective {path more : List PathPart} (hp : ∀ part ∈ path, part.Plain)
    (hm : ∀ part ∈ more, part.Plain)
    (h : path.flatMap (fun part => part.render.toList) =
      more.flatMap fun part => part.render.toList) : path = more := by
  induction path generalizing more with
  | nil =>
    cases more with
    | nil => rfl
    | cons other more =>
      obtain ⟨opening, body, hrender, -⟩ := PathPart.toList_render (hm other List.mem_cons_self)
      rw [List.flatMap_cons, hrender] at h
      cases h
  | cons part path ih =>
    obtain ⟨hpart, hpath⟩ := List.forall_mem_cons.mp hp
    obtain ⟨opening, body, hrender, -, hbody⟩ := PathPart.toList_render hpart
    cases more with
    | nil =>
      rw [List.flatMap_cons, hrender] at h
      cases h
    | cons other more =>
      obtain ⟨hother, hmore⟩ := List.forall_mem_cons.mp hm
      obtain ⟨first, inner, hrender', -, hinner⟩ := PathPart.toList_render hother
      rw [List.flatMap_cons, List.flatMap_cons, hrender, hrender', List.cons_append,
        List.cons_append, List.cons.injEq] at h
      obtain ⟨hsame, hrest⟩ :=
        eq_of_append_eq hbody hinner (atStep_flatMap hpath) (atStep_flatMap hmore) h.2
      have hfirst : part = other := by
        refine PathPart.render_injective hpart hother (String.toList_inj.mp ?_)
        rw [hrender, hrender', h.1, hsame]
      rw [hfirst, ih hpath hmore hrest]

/-- A plain base and plain steps are known from the text of the path. -/
theorem renderPath_injective {base other : String} {path more : List PathPart}
    (hb : PlainText base) (ho : PlainText other) (hp : ∀ part ∈ path, part.Plain)
    (hm : ∀ part ∈ more, part.Plain) (h : renderPath base path = renderPath other more) :
    base = other ∧ path = more := by
  have hchars : (renderPath base path).toList = (renderPath other more).toList :=
    congrArg String.toList h
  rw [toList_renderPath, toList_renderPath] at hchars
  obtain ⟨hbase, hpath⟩ := eq_of_append_eq (opensStep_eq_false_of_plainText hb)
    (opensStep_eq_false_of_plainText ho) (atStep_flatMap hp) (atStep_flatMap hm) hchars
  exact ⟨String.toList_inj.mp hbase, flatMap_render_injective hp hm hpath⟩

end ContextSlice
