import Mathlib.Data.List.Basic
import Signpost.Chain.Script
import Signpost.Proofs.Chain.Commuting

/-! Setting a header. The values are joined, and the text that comes of it is refused if one of
its bytes is a control, in which case nothing changes. The names of methods hold no such byte, so
a negotiation that writes its answers always can. -/
namespace Signpost
open Http (Failure HeaderName HeaderValue Response Status)

namespace Http

/- The controls, but not the tab. -/
def IsControl (b : UInt8) : Prop := b < 32 ∧ b ≠ 9 ∨ b = 127

theorem isControlNat {b : UInt8} : IsControl b ↔ b.toNat < 32 ∧ b.toNat ≠ 9 ∨ b.toNat = 127 := by
  rw [IsControl, UInt8.lt_iff_toNat_lt, ne_eq, ← UInt8.toNat_inj, ← UInt8.toNat_inj]
  rfl

theorem isValueCharNat {c : Char} :
    isValueChar c = true ↔ ¬ (c.toNat < 32 ∧ c.toNat ≠ 9 ∨ c.toNat = 127) := by
  have tab : c = '\t' ↔ c.toNat = 9 := Char.toNat_inj.symm
  simp only [isValueChar, Bool.or_eq_true, Bool.and_eq_true, beq_iff_eq, bne_iff_ne, tab,
    decide_eq_true_eq]
  omega

/- Of a character outside of ASCII all bytes are above the controls. -/
theorem encodedAbove {c : Char} (above : 128 ≤ c.toNat) :
    ∀ b ∈ String.utf8EncodeChar c, 128 ≤ b.toNat := by
  have code : c.val.toNat = c.toNat := rfl
  intro b member
  unfold String.utf8EncodeChar at member
  simp only [code] at member
  split_ifs at member with one two three
  · omega
  all_goals
    simp only [List.mem_cons, List.not_mem_nil, or_false] at member
    rcases member with rfl | rfl | rfl | rfl <;> rw [UInt8.toNat_ofNat'] <;> omega

theorem isValueEncoded (c : Char) :
    isValueChar c = true ↔ ∀ b ∈ String.utf8EncodeChar c, ¬ IsControl b := by
  rw [isValueCharNat]
  rcases Nat.lt_or_ge c.toNat 128 with ascii | above
  · have code : c.val.toNat ≤ 127 := Nat.le_of_lt_succ ascii
    have byte : (UInt8.ofNat c.val.toNat).toNat = c.toNat := by
      rw [UInt8.toNat_ofNat']
      exact Nat.mod_eq_of_lt (Nat.lt_trans ascii (by decide))
    simp only [String.utf8EncodeChar, code, if_true, List.forall_mem_singleton, isControlNat, byte]
  · refine iff_of_true (by omega) fun b member => ?_
    have high := encodedAbove above b member
    rw [isControlNat]
    omega

theorem isValueBytes (s : String) :
    isValue s = true ↔ ∀ b ∈ s.toUTF8.data.toList, ¬ IsControl b := by
  rw [isValue, List.all_eq_true, utf8Bytes, List.forall_mem_flatMap]
  exact forall₂_congr fun c _ => isValueEncoded c

theorem isValueJoined {sep : String} {parts : List String} (between : isValue sep = true) :
    isValue (sep.intercalate parts) = true ↔ ∀ part ∈ parts, isValue part = true := by
  refine ⟨fun joined => ?_, isValueIntercalate between⟩
  induction parts with
  | nil => exact fun part member => nomatch member
  | cons first rest ih =>
    cases rest with
    | nil =>
      rw [String.intercalate_singleton] at joined
      exact List.forall_mem_singleton.mpr joined
    | cons second rest =>
      rw [String.intercalate_cons_cons] at joined
      simp only [isValue, String.toList_append, List.all_append, Bool.and_eq_true] at joined
      exact List.forall_mem_cons.mpr ⟨joined.1.1, ih joined.2⟩

theorem ofTextNone {s : String} : HeaderValue.ofText? s = none ↔ isValue s ≠ true :=
  dite_eq_right_iff.trans (by simp)

theorem ofTextSome {s : String} {value : HeaderValue} (read : HeaderValue.ofText? s = some value) :
    value.text = s := by
  unfold HeaderValue.ofText? at read
  split at read
  · cases read
    rfl
  · cases read

namespace Response

theorem setRefused {r : Response} {name : HeaderName} {values : List String} :
    r.set? name values = none ↔ ∃ value ∈ values, ∃ b ∈ value.toUTF8.data.toList, IsControl b := by
  rw [set?, Option.map_eq_none_iff, ofTextNone, ne_eq, isValueJoined (by decide)]
  simp only [isValueBytes, not_forall, not_not, exists_prop]

/- One value under the name, and everything else as it was. -/
structure Holds (r after : Response) (name : HeaderName) (text : String) : Prop where
  value : (after.headers.values name).map HeaderValue.text = [text]
  others : ∀ other, other ≠ name → after.headers.values other = r.headers.values other
  status : after.status = r.status
  body : after.body = r.body

theorem setHolds {r after : Response} {name : HeaderName} {values : List String}
    (set : r.set? name values = some after) : Holds r after name (", ".intercalate values) := by
  obtain ⟨value, read, rfl⟩ := Option.map_eq_some_iff.mp set
  refine ⟨?_, fun other ne => Headers.valuesInsertOther _ _ ne, rfl, rfl⟩
  rw [Headers.valuesInsertSelf, List.map_singleton, ofTextSome read]

end Response
end Http

namespace Chain
open Http (Body)
variable {σ : Type}

theorem setAllow (r : Response) (s : MethodSet) : r.set? .allow s.names =
    some { r with headers := r.headers.insert .allow s.headerValue } := by
  have legal := MethodSet.headerValueOfText s
  rw [MethodSet.text] at legal
  rw [Response.set?, legal, Option.map_some]

theorem headerRefused {α : Type} {ctx : Context (Notes α)} {text : String} {name : HeaderName}
    {values : List String} (read : HeaderName.ofText? text = some name)
    (refused : ctx.response.set? name values = none) (next : Next (Notes α))
    (acts : List (Act α)) (value : Option Body) :
    Script.run next (.header text values :: acts) value ctx =
      ⟨.error (.other Http.badHeaderValue), ctx⟩ := by
  rw [Script.run, Script.setHeader, read]
  simp only [refused]

namespace Negotiation

theorem answerWrites {n : Negotiation} (writes : n.throws = false) (ctx : Context σ) :
    (n.answer ctx).result = .ok none ∧ ((n.answer ctx).context.response = ctx.response ∨
      (n.answer ctx).context.response.headers =
        ctx.response.headers.insert .allow (allowed ctx).headerValue) := by
  unfold answer
  simp only [writes, respondWrites, Bool.false_eq_true, if_false]
  split_ifs with foreign nothing asks allows
  · exact ⟨rfl, .inr rfl⟩
  · exact ⟨rfl, .inl rfl⟩
  · exact ⟨rfl, .inr rfl⟩
  · exact ⟨rfl, .inl rfl⟩
  · exact ⟨rfl, .inr rfl⟩

theorem middlewareWrites {n : Negotiation} (writes : n.throws = false) (next : Next σ)
    (ctx : Context σ) :
    let left := next.run ctx
    let out := n.middleware next ctx
    (∀ failure, out.result = .error failure → left.result = .error failure) ∧
      (out.context.response = left.context.response ∨ out.context.response.headers =
        left.context.response.headers.insert .allow (allowed left.context).headerValue) := by
  intro left out
  have settled : out = n.settle left := middlewareSettles n next ctx
  by_cases bodiless : left.result = .ok none
  · by_cases unset : left.context.response.status = .notFound
    · rw [settled, n.settleUnanswered bodiless unset]
      obtain ⟨silent, written⟩ := answerWrites writes left.context
      refine ⟨fun failure failed => ?_, written⟩
      rw [silent] at failed
      cases failed
    · rw [settled, n.settleAnswered (.inr unset)]
      exact ⟨fun _ failed => failed, .inl rfl⟩
  · rw [settled, n.settleAnswered (.inl bodiless)]
    exact ⟨fun _ failed => failed, .inl rfl⟩

end Negotiation

/- Where it is refused, a script ends in the context it was in, and with it the response. -/
theorem settingAtomic (r : Response) (name : HeaderName) (values : List String) :
    (r.set? name values = none ↔
        ∃ value ∈ values, ∃ b ∈ value.toUTF8.data.toList, Http.IsControl b) ∧
      (∀ after, r.set? name values = some after →
        Response.Holds r after name (", ".intercalate values)) ∧
      (∀ (α : Type) (next : Next (Notes α)) acts text value ctx,
        HeaderName.ofText? text = some name → ctx.response = r → r.set? name values = none →
        Script.run next (.header text values :: acts) value ctx =
          ⟨.error (.other Http.badHeaderValue), ctx⟩) ∧
      (∀ s : MethodSet, ∃ after, r.set? .allow s.names = some after ∧
        Response.Holds r after .allow (", ".intercalate s.names)) ∧
      ∀ (σ : Type) (n : Negotiation) (next : Next σ) ctx, n.throws = false →
        let left := next.run ctx
        let out := n.middleware next ctx
        (∀ failure, out.result = .error failure → left.result = .error failure) ∧
          (out.context.response = left.context.response ∨ out.context.response.headers =
            left.context.response.headers.insert .allow
              (Negotiation.allowed left.context).headerValue) := by
  refine ⟨Response.setRefused, fun _ => Response.setHolds, ?_, ?_, ?_⟩
  · rintro α next acts text value ctx read rfl refused
    exact headerRefused read refused next acts value
  · intro s
    exact ⟨_, setAllow r s, Response.setHolds (setAllow r s)⟩
  · intro σ n next ctx writes
    exact Negotiation.middlewareWrites writes next ctx

example (r : Response) (name : HeaderName) :
    ∃ after, r.set? name [] = some after ∧ Response.Holds r after name "" :=
  ⟨_, rfl, @Response.setHolds r _ name [] rfl⟩

end Chain
end Signpost
