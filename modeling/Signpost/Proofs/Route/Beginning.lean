import Signpost.Route.PathPattern

/-! The first item of a source. Each construct adds an item behind those there are, repeats
the last one, begins a branch, or opens or closes a group. So the first branch of all keeps
the first anchor, once a further item stands behind it. -/
namespace Signpost.Regex

/- Branches and items, last first, whose first branch begins with the anchor of the line and
goes on behind it. -/
def BeginsLine (branches items : List Expr) : Prop :=
  (branches = [] ∧ ∃ e more, items = e :: more ++ [.anchor .lineStart]) ∨
    ∃ later rest, branches = later ++ [.seq (.anchor .lineStart) rest]

theorem beginsPush {branches items : List Expr} (begins : BeginsLine branches items) (e : Expr) :
    BeginsLine branches (e :: items) := by
  rcases begins with ⟨none, last, more, rfl⟩ | first
  · exact .inl ⟨none, e, last :: more, rfl⟩
  · exact .inr first

theorem beginsReplace {branches items : List Expr} {last : Expr}
    (begins : BeginsLine branches (last :: items)) (e : Expr) : BeginsLine branches (e :: items) := by
  rcases begins with ⟨none, old, more, same⟩ | first
  · rw [List.cons_append] at same
    cases same
    exact .inl ⟨none, e, more, rfl⟩
  · exact .inr first

theorem sequenceFold (before : List Expr) (first last : Expr) :
    ∃ rest, (before ++ [first]).foldl (fun rest item => Expr.seq item rest) last =
      .seq first rest := by
  rw [List.foldl_append]
  exact ⟨_, rfl⟩

theorem beginsBranch {branches items : List Expr} (begins : BeginsLine branches items) :
    BeginsLine (Expr.sequence items :: branches) [] := by
  rcases begins with ⟨rfl, e, more, rfl⟩ | ⟨later, rest, rfl⟩
  · obtain ⟨rest, same⟩ := sequenceFold more (.anchor .lineStart) e
    exact .inr ⟨[], rest, by rw [List.cons_append, Expr.sequence, same]; rfl⟩
  · exact .inr ⟨Expr.sequence items :: later, rest, rfl⟩

/- Of several open levels the outermost begins the source. -/
def LevelsBegin : List Frame → List Expr → List Expr → Prop
  | [], branches, items => BeginsLine branches items
  | f :: frames, _, _ => LevelsBegin frames f.branches f.items

theorem levelsPush {frames branches items} (begins : LevelsBegin frames branches items) (e : Expr) :
    LevelsBegin frames branches (e :: items) := by
  cases frames with
  | nil => exact beginsPush begins e
  | cons f frames => exact begins

namespace Reader

def Begins (r : Reader) : Prop := LevelsBegin r.frames r.branches r.items

theorem pushBegins {r : Reader} (begins : r.Begins) (e : Expr) : (r.push e).Begins :=
  levelsPush begins e

theorem branchBegins {r : Reader} (begins : r.Begins) : r.nextBranch.Begins := by
  obtain ⟨verbose, captures, names, branches, items, frames⟩ := r
  cases frames with
  | nil => exact beginsBranch begins
  | cons f frames => exact begins

theorem openWithBegins {r r' : Reader} {opening : Opening} (begins : r.Begins)
    (opened : r.openWith opening = .ok r') : r'.Begins := by
  unfold openWith at opened
  split at opened
  · cases opened
    exact pushBegins begins _
  · cases opened
    exact begins
  next name =>
    cases name with
    | none =>
      cases opened
      exact begins
    | some name =>
      simp only at opened
      split at opened
      · cases opened
      · cases opened
        exact begins

theorem closeBegins {r r' : Reader} (begins : r.Begins) (closed : r.closeGroup = .ok r') :
    r'.Begins := by
  obtain ⟨verbose, captures, names, branches, items, frames⟩ := r
  cases frames with
  | nil => cases closed
  | cons f frames =>
    cases closed
    have outside : LevelsBegin frames f.branches f.items := begins
    exact levelsPush outside _

theorem repeatLastBegins {r r' : Reader} {min max greedy} (begins : r.Begins)
    (repeated : r.repeatLast min max greedy = .ok r') : r'.Begins := by
  obtain ⟨verbose, captures, names, branches, items, frames⟩ := r
  unfold repeatLast at repeated
  split at repeated
  next last before same =>
    split at repeated
    · cases repeated
      cases same
      cases frames with
      | nil => exact beginsReplace begins _
      | cons f frames => exact begins
    · cases repeated
  · cases repeated

theorem repeatOpBegins {r r' : Reader} {min max cs rest} (begins : r.Begins)
    (read : r.repeatOp min max cs = .ok (r', rest)) : r'.Begins := by
  obtain ⟨q, repeated, last⟩ := okBind read
  cases last
  exact repeatLastBegins begins repeated

theorem readBegins {r r' : Reader} {c cs rest} (begins : r.Begins)
    (read : r.read c cs = .ok (r', rest)) : r'.Begins := by
  unfold Reader.read at read
  split at read
  · obtain ⟨⟨opening, more⟩, _, read⟩ := okBind read
    obtain ⟨q, opened, last⟩ := okBind read
    cases last
    exact openWithBegins begins opened
  · obtain ⟨q, closed, last⟩ := okBind read
    cases last
    exact closeBegins begins closed
  · cases read
    exact branchBegins begins
  · obtain ⟨⟨e, more⟩, _, last⟩ := okBind read
    cases last
    exact pushBegins begins e
  · exact repeatOpBegins begins read
  · exact repeatOpBegins begins read
  · exact repeatOpBegins begins read
  · obtain ⟨⟨⟨min, max⟩, more⟩, _, read⟩ := okBind read
    exact repeatOpBegins begins read
  · obtain ⟨⟨e, more⟩, _, last⟩ := okBind read
    cases last
    exact pushBegins begins e
  all_goals
    cases read
    exact pushBegins begins _

theorem readAllBegins {fuel cs} {r r' : Reader} (begins : r.Begins)
    (read : r.readAll fuel cs = .ok r') : r'.Begins := by
  induction fuel generalizing r cs with
  | zero =>
    cases read
    exact begins
  | succ fuel ih =>
    simp only [readAll] at read
    split at read
    · cases read
      exact begins
    · obtain ⟨⟨q, rest⟩, taken, read⟩ := okBind read
      exact ih (readBegins begins taken) read

end Reader
end Signpost.Regex
