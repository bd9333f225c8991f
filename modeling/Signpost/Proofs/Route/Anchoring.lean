import Signpost.Proofs.Regex.Find
import Signpost.Proofs.Regex.Reading
import Signpost.Proofs.Route.Beginning
import Signpost.Proofs.Route.Ending

/-! Where the matches of a template begin and end. The anchors that a source is put between
bind its first and its last branch only, so the others need anchors of their own. And the
last anchor is one of the whole text only if it is read as one: not in a comment, and not in
the mode of lines. -/
namespace Signpost.Regex

namespace Node

def branches : Node → List Node
  | alt a b => a :: b.branches
  | a => [a]

def Opens (a : Node) : Prop :=
  ∀ text s t, s.pos ≤ text.size → a.Match text s t → s.pos = 0

def Closes (a : Node) : Prop :=
  ∀ text s t, s.pos ≤ text.size → a.Match text s t → t.pos = text.size

/- Every match is one of the whole text. -/
def Anchored (a : Node) : Prop :=
  ∀ text s t, s.pos ≤ text.size → a.Match text s t → s.pos = 0 ∧ t.pos = text.size

theorem branchesMatch {a : Node} {text s t} :
    a.Match text s t ↔ ∃ b ∈ a.branches, b.Match text s t := by
  induction a with
  | alt a b _ ih =>
    simp only [Match, branches, List.mem_cons, exists_eq_or_imp, ih]
  | _ => simp [branches]

theorem anchoredBranches {a : Node} :
    a.Anchored ↔ ∀ b ∈ a.branches, b.Opens ∧ b.Closes := by
  constructor
  · intro anchored b member
    have whole := fun text s t inside taken =>
      anchored text s t inside (branchesMatch.mpr ⟨b, member, taken⟩)
    exact ⟨fun text s t inside taken => (whole text s t inside taken).1,
      fun text s t inside taken => (whole text s t inside taken).2⟩
  · intro each text s t inside taken
    obtain ⟨b, member, taken⟩ := branchesMatch.mp taken
    exact ⟨(each b member).1 text s t inside taken, (each b member).2 text s t inside taken⟩

theorem opensStart (a : Node) : (seq (look .textStart) a).Opens := by
  intro text s t inside given
  obtain ⟨u, ⟨holds, rfl⟩, _⟩ := given
  exact textStartHolds inside holds

theorem closesEnd : (look .textEnd).Closes := by
  intro text s t inside given
  obtain ⟨holds, rfl⟩ := given
  exact textEndHolds inside holds

theorem closesSeq {a b : Node} (closes : b.Closes) : (seq a b).Closes := by
  intro text s t inside given
  obtain ⟨u, first, second⟩ := given
  exact closes text u t (matchInside inside first) second

end Node

namespace Expr

/- The last item of a sequence is the anchor of the line. -/
def ItemsEnd : Expr → Prop
  | seq _ b => b.ItemsEnd
  | e => e = anchor .lineEnd

def LastEnds : Expr → Prop
  | alt _ b => b.LastEnds
  | e => e.ItemsEnd

theorem sequenceEnds (before : List Expr) : (sequence (anchor .lineEnd :: before)).ItemsEnd := by
  have fold : ∀ last : Expr, last.ItemsEnd →
      (before.foldl (fun rest item => seq item rest) last).ItemsEnd := by
    induction before with
    | nil => exact fun last ends => ends
    | cons item before ih => exact fun last ends => ih (seq item last) ends
  exact fold _ rfl

theorem lastOfItems {e : Expr} (ends : e.ItemsEnd) : e.LastEnds := by
  cases e with
  | alt a b => cases ends
  | _ => exact ends

theorem choiceEnds {last : Expr} (branches : List Expr) (ends : last.LastEnds) :
    (choice (last :: branches)).LastEnds := by
  unfold choice
  induction branches generalizing last with
  | nil => exact ends
  | cons branch branches ih => exact ih (show (alt branch last).LastEnds from ends)

theorem itemsClose {e : Expr} {f f' : Flags} {a : Node} (ends : e.ItemsEnd)
    (worked : e.node f = .ok (a, f')) (whole : f'.multiLine = false) :
    a.branches = [a] ∧ a.Closes := by
  induction e generalizing f a with
  | seq e₁ e₂ _ ih =>
    obtain ⟨⟨a₁, f₁⟩, first, worked⟩ := okBind worked
    obtain ⟨⟨a₂, f₂⟩, second, last⟩ := okBind worked
    cases last
    exact ⟨rfl, Node.closesSeq (ih ends second).2⟩
  | anchor kind =>
    cases ends
    cases worked
    have same : f'.anchor .lineEnd = .textEnd := by simp [Flags.anchor, whole]
    rw [same]
    exact ⟨rfl, Node.closesEnd⟩
  | _ => cases ends

theorem lastCloses {e : Expr} {f f' : Flags} {a : Node} (ends : e.LastEnds)
    (worked : e.node f = .ok (a, f')) (whole : f'.multiLine = false) :
    ∀ b ∈ a.branches.getLast?, b.Closes := by
  induction e generalizing f a with
  | alt e₁ e₂ _ ih =>
    obtain ⟨⟨a₁, f₁⟩, first, worked⟩ := okBind worked
    obtain ⟨⟨a₂, f₂⟩, second, last⟩ := okBind worked
    cases last
    have some : a₂.branches ≠ [] := by cases a₂ <;> exact List.cons_ne_nil _ _
    rw [Node.branches, List.getLast?_cons_of_ne_nil some]
    exact ih ends second
  | _ =>
    obtain ⟨alone, closes⟩ := itemsClose ends worked whole
    rw [alone]
    intro b given
    cases given
    exact closes

/- The first branch begins with the anchor of the line. -/
def FirstBegins (e : Expr) : Prop :=
  ∃ rest, e = seq (anchor .lineStart) rest ∨ ∃ others, e = alt (seq (anchor .lineStart) rest) others

theorem firstOpens {e : Expr} {f f' : Flags} {a : Node} (begins : e.FirstBegins)
    (worked : e.node f = .ok (a, f')) (whole : f.multiLine = false) :
    ∃ first others, a.branches = first :: others ∧ first.Opens := by
  have line : ∀ {rest : Expr} {b f₁}, (seq (anchor .lineStart) rest).node f = .ok (b, f₁) →
      b.branches = [b] ∧ b.Opens := by
    intro rest b f₁ worked
    obtain ⟨⟨a₁, f₁⟩, first, worked⟩ := okBind worked
    obtain ⟨⟨a₂, f₂⟩, second, last⟩ := okBind worked
    cases last
    cases first
    have same : f.anchor .lineStart = .textStart := by simp [Flags.anchor, whole]
    rw [same]
    exact ⟨rfl, Node.opensStart a₂⟩
  obtain ⟨rest, rfl | ⟨others, rfl⟩⟩ := begins
  · obtain ⟨alone, opens⟩ := line worked
    exact ⟨a, [], alone, opens⟩
  · obtain ⟨⟨a₁, f₁⟩, first, worked⟩ := okBind worked
    obtain ⟨⟨a₂, f₂⟩, second, last⟩ := okBind worked
    cases last
    exact ⟨a₁, a₂.branches, rfl, (line first).2⟩

end Expr

theorem insideBegins {r : Reader} (begins : BeginsLine r.branches r.items) :
    r.inside.FirstBegins := by
  unfold Reader.inside
  rcases begins with ⟨none, e, more, same⟩ | ⟨later, rest, same⟩
  · obtain ⟨rest, folded⟩ := sequenceFold more (.anchor .lineStart) e
    rw [none, same]
    exact ⟨rest, .inl folded⟩
  · rw [same]
    refine ⟨rest, .inr ?_⟩
    rw [Expr.choice, List.foldl_append]
    exact ⟨_, rfl⟩

end Signpost.Regex

namespace Signpost.Route
open Regex (Reader Expr BeginsLine)

theorem assembleAhead (segments : List Segment) :
    ∃ middle, assemble segments = '^' :: '/' :: (middle ++ tailSource) :=
  ⟨['/'].intercalate (segments.map Segment.source), by rw [assemble]⟩

theorem assembleReads {segments : List Segment} {r : Reader}
    (read : ({} : Reader).readAll (assemble segments).length (assemble segments) = .ok r)
    (closed : r.frames = []) :
    BeginsLine r.branches r.items ∧ (r.verbose = true ∨ r.Tailed) := by
  obtain ⟨middle, same⟩ := assembleAhead segments
  have length : (assemble segments).length = middle.length + 2 + 3 + 14 := by
    have tail : tailSource.length = 17 := rfl
    rw [same, List.length_cons, List.length_cons, List.length_append, tail]
  have ahead : Regex.Ahead (middle.length + 2) (assemble segments) :=
    ⟨'^' :: '/' :: middle, Nat.le_refl _, same⟩
  rw [length] at read
  refine ⟨?_, Reader.readAllEnds 3 ahead read closed⟩
  have first : ({} : Reader).read '^' ('/' :: (middle ++ tailSource)) =
      .ok (({} : Reader).push (.anchor .lineStart), '/' :: (middle ++ tailSource)) := rfl
  have second : (({} : Reader).push (.anchor .lineStart)).read '/' (middle ++ tailSource) =
      .ok ((({} : Reader).push (.anchor .lineStart)).push (.literal ⟨'/', false⟩),
        middle ++ tailSource) := rfl
  rw [same, Reader.readAllCons rfl first, Reader.readAllCons rfl second] at read
  have begins : ((({} : Reader).push (.anchor .lineStart)).push (.literal ⟨'/', false⟩)).Begins :=
    .inl ⟨rfl, _, [], rfl⟩
  have last := Reader.readAllBegins begins read
  rw [Reader.Begins, closed] at last
  exact last

namespace PathPattern
open Regex (Node)

/- The source is read to its end outside of comments and outside the mode of lines. -/
def endsPlainly (source : List Char) : Bool :=
  match ({} : Reader).readAll source.length source with
  | .error _ => false
  | .ok r =>
    match r.inside.node {} with
    | .error _ => false
    | .ok (_, f) => !r.verbose && !f.multiLine

theorem compiledBranches {template : String} {p : PathPattern}
    (compiled : compile template = .ok p) :
    (∃ first others, p.regex.node.branches = first :: others ∧ first.Opens) ∧
      (endsPlainly p.regex.source.toList = true →
        ∀ b ∈ p.regex.node.branches.getLast?, b.Closes) := by
  obtain ⟨_, segments, _, _, built, _⟩ := compileSteps compiled
  obtain ⟨r, f, all, closed, worked, source⟩ := Regex.compileSteps built
  rw [String.toList_ofList] at all
  obtain ⟨begins, ends⟩ := assembleReads all closed
  refine ⟨Expr.firstOpens (Regex.insideBegins begins) worked rfl, ?_⟩
  intro plainly
  simp only [endsPlainly, source, String.toList_ofList, all, worked, Bool.and_eq_true,
    Bool.not_eq_true'] at plainly
  rcases ends with verbose | ⟨fragment, before, same⟩
  · rw [plainly.1] at verbose
    cases verbose
  · refine Expr.lastCloses ?_ worked plainly.2
    unfold Reader.inside
    rw [same]
    exact Expr.choiceEnds r.branches (Expr.lastOfItems (Expr.sequenceEnds _))

theorem anchoredExactly {template : String} {p : PathPattern}
    (compiled : compile template = .ok p) :
    (p.regex.node.Anchored ↔
      (∀ b ∈ p.regex.node.branches.tail, b.Opens) ∧
      (∀ b ∈ p.regex.node.branches.dropLast, b.Closes) ∧
      (endsPlainly p.regex.source.toList = true ∨
        ∀ b ∈ p.regex.node.branches.getLast?, b.Closes)) ∧
    (p.regex.node.Anchored → ∀ path, p.isMatch path = true →
      ∃ t, p.regex.find? path.toList = some t ∧ t.start = 0 ∧ t.pos = path.toList.length) := by
  obtain ⟨⟨first, others, same, opens⟩, plainly⟩ := compiledBranches compiled
  refine ⟨?_, ?_⟩
  · rw [Node.anchoredBranches]
    constructor
    · intro each
      refine ⟨fun b member => (each b (List.mem_of_mem_tail member)).1,
        fun b member => (each b (List.dropLast_subset _ member)).2, .inr fun b last => ?_⟩
      exact (each b (List.mem_of_getLast? last)).2
    · intro given b member
      obtain ⟨later, earlier, last⟩ := given
      refine ⟨?_, ?_⟩
      · rw [same] at member later
        rcases List.mem_cons.mp member with rfl | member
        · exact opens
        · exact later b member
      · have some := List.ne_nil_of_mem member
        rw [← List.dropLast_concat_getLast some] at member
        rcases List.mem_append.mp member with member | member
        · exact earlier b member
        · have here : b ∈ p.regex.node.branches.getLast? := by
            rw [List.mem_singleton.mp member, List.getLast?_eq_some_getLast some]
            rfl
          rcases last with plain | closes
          · exact plainly plain b here
          · exact closes b here
  · intro anchored path hit
    obtain ⟨t, found⟩ := Option.isSome_iff_exists.mp hit
    obtain ⟨inside, taken⟩ := Regex.findSound found
    obtain ⟨start, stop⟩ := anchored path.toList.toArray _ _ (by simpa using inside) taken
    exact ⟨t, found, start, by simpa using stop⟩

theorem anchoredSlug : ∃ p, compile "/users/:id" = .ok p ∧ p.regex.node.Anchored := by
  refine ⟨_, rfl, ?_⟩
  refine (anchoredExactly (show compile "/users/:id" = .ok _ from rfl)).1.mpr ⟨?_, ?_, .inl ?_⟩
  · intro b member
    cases member
  · intro b member
    cases member
  · decide +kernel

/- The first branch of an alternation need not go to the end. -/
theorem alternationStopsShort : ∃ p, compile "/a|b" = .ok p ∧ p.isMatch "/axyz" = true ∧
    (p.regex.find? "/axyz".toList).map (fun t => (t.start, t.pos)) = some (0, 2) := by
  refine ⟨_, rfl, ?_⟩
  decide +kernel

end PathPattern
end Signpost.Route
