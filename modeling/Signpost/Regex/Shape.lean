import Signpost.Regex.Node

/-! Nodes in simplified form. Sequences and choices are lists that do not nest directly,
neighbouring literals are joined, a choice between characters is a set, and what all
branches of a choice begin with is taken out in front. -/
namespace Signpost.Regex

/- A set is kept as its borders. -/
inductive Shape
  | empty
  | literal (text : List Char)
  | set (borders : List Nat)
  | look (l : Look)
  | repeated (min : Nat) (max : Option Nat) (greedy : Bool) (a : Shape)
  | group (index : Nat) (a : Shape)
  | seq (parts : List Shape)
  | alt (branches : List Shape)

namespace Shape

mutual

def same : Shape → Shape → Bool
  | empty, empty => true
  | literal s, literal t => s == t
  | set s, set t => s == t
  | look l, look m => l == m
  | repeated min max greedy a, repeated least most eager b =>
    min == least && max == most && greedy == eager && a.same b
  | group index a, group number b => index == number && a.same b
  | seq ps, seq qs | alt ps, alt qs => allSame ps qs
  | _, _ => false

def allSame : List Shape → List Shape → Bool
  | [], [] => true
  | a :: as, b :: bs => a.same b && allSame as bs
  | _, _ => false

end

def ofBorders : List Nat → Shape
  | [lo, hi] => if hi == lo + 1 then literal [Char.ofNat lo] else set [lo, hi]
  | borders => set borders

def parts : Shape → List Shape
  | empty => []
  | seq ps => ps
  | a => [a]

def branches : Shape → List Shape
  | alt bs => bs
  | a => [a]

def joinLiteral (a : Shape) (rest : List Shape) : List Shape :=
  match a, rest with
  | literal s, literal t :: rest => literal (s ++ t) :: rest
  | a, rest => a :: rest

def sequence (ps : List Shape) : Shape :=
  match (ps.flatMap parts).foldr joinLiteral [] with
  | [] => empty
  | [a] => a
  | ps => seq ps

def single? : Shape → Option Nat
  | literal [c] => some c.toNat
  | _ => none

def borders? : Shape → Option (List Nat)
  | set borders => some borders
  | _ => none

def unionBorders (sets : List (List Nat)) : List Nat :=
  Unicode.joined (sets.flatMap Unicode.runsOf)

/- How many parts all of the branches begin with. Only sequences have such parts. -/
def sharedParts : List Shape → Nat
  | seq first :: rest =>
    rest.foldl (fun n b =>
      match b with
      | seq ps => (((first.take n).zip ps).takeWhile fun p => p.1.same p.2).length
      | _ => 0) first.length
  | _ => 0

/- Each round takes a part off the first branch, so their number bounds the rounds. -/
def choice : Nat → List Shape → Shape
  | fuel, bs =>
    match bs.flatMap branches with
    | [] => set []
    | [a] => a
    | bs =>
      match bs.mapM single?, bs.mapM borders? with
      | some cs, _ => ofBorders (Unicode.ascending cs)
      | none, some sets => ofBorders (unionBorders sets)
      | none, none =>
        match fuel, sharedParts bs with
        | 0, _ | _, 0 => alt bs
        | fuel + 1, n =>
          let front := (bs.head?.map parts).getD []
          sequence (front.take n ++ [choice fuel (bs.map fun b => sequence (b.parts.drop n))])

def choose (bs : List Shape) : Shape :=
  choice (bs.foldl (fun fuel b => fuel + (b.parts.length + 1)) 0) bs

end Shape

/- The parts of a sequence, or with `inChoice` the branches of a choice. -/
def Node.shapes (inChoice : Bool) : Node → List Shape
  | empty => if inChoice then [.empty] else []
  | set s => [.ofBorders s.borders]
  | look l => [.look l]
  | seq a b =>
    let parts := a.shapes false ++ b.shapes false
    if inChoice then [.sequence parts] else parts
  | alt a b =>
    let branches := .sequence (a.shapes false) :: b.shapes true
    if inChoice then branches else [.choose branches]
  | group none a => if inChoice then [.sequence (a.shapes false)] else a.shapes false
  | group (some index) a => [.group index (.sequence (a.shapes false))]
  | repeated min max greedy a => [.repeated min max greedy (.sequence (a.shapes false))]

def Node.shape (a : Node) : Shape := .sequence (a.shapes false)

/-! What a shape tells about its matches. -/

namespace Shape

mutual

def possible : Shape → Bool
  | set borders => !borders.isEmpty
  | repeated _ _ _ a | group _ a => a.possible
  | seq ps | alt ps => allPossible ps
  | _ => true

def allPossible : List Shape → Bool
  | [] => true
  | a :: rest => a.possible && allPossible rest

end

mutual

def takesSome : Shape → Bool
  | literal _ => true
  | set borders => !borders.isEmpty
  | repeated min _ _ a => 0 < min && a.takesSome
  | group _ a => a.takesSome
  | seq ps => allPossible ps && someTakes ps
  | alt ps => allTake ps
  | _ => false

def someTakes : List Shape → Bool
  | [] => false
  | a :: rest => a.takesSome || someTakes rest

def allTake : List Shape → Bool
  | [] => true
  | a :: rest => a.takesSome && allTake rest

end

mutual

def onlyEmpty : Shape → Bool
  | literal _ | set _ => false
  | empty | look _ => true
  | repeated _ _ _ a | group _ a => a.onlyEmpty
  | seq ps | alt ps => allOnlyEmpty ps

def allOnlyEmpty : List Shape → Bool
  | [] => true
  | a :: rest => a.onlyEmpty && allOnlyEmpty rest

end

mutual

/- Whether every match begins where `l` holds, as far as the form shows. -/
def begins (l : Look) : Shape → Bool
  | look l' => l' == l
  | repeated min _ _ a => 0 < min && a.begins l
  | group _ a => a.begins l
  | seq ps => sequenceBegins l ps
  | alt ps => allBegin l ps
  | _ => false

def sequenceBegins (l : Look) : List Shape → Bool
  | [] => false
  | a :: rest => a.begins l || a.onlyEmpty && sequenceBegins l rest

def allBegin (l : Look) : List Shape → Bool
  | [] => true
  | a :: rest => a.begins l && allBegin l rest

end

mutual

def reversed : Shape → Shape
  | repeated min max greedy a => repeated min max greedy a.reversed
  | group index a => group index a.reversed
  | seq ps => seq (reversedOnto ps [])
  | alt ps => alt (allReversed ps)
  | a => a

def reversedOnto : List Shape → List Shape → List Shape
  | [], onto => onto
  | a :: rest, onto => reversedOnto rest (a.reversed :: onto)

def allReversed : List Shape → List Shape
  | [] => []
  | a :: rest => a.reversed :: allReversed rest

end

end Shape
end Signpost.Regex
