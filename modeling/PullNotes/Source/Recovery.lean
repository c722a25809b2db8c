import PullNotes.Source.Grammar

/-!
# Going on after an error

Where the grammar is stuck at a token, some of the source before and after is passed over as an
error, or a token is supplied, so that the grammar goes on past that token.  Each remedy has a cost,
and the cheapest one that works is taken; after it the source may have further errors.
-/

namespace PullNotes

namespace Source

/-! ### Whole sources -/

/-- The kind of the root of a tree. -/
def rootKind : String := "program"

/-- The start of the first token of a source, comments counted. -/
def firstPlace (cs : List Char) : Cursor := (Cursor.ofChars cs).advance (Lexeme.spaces cs)

/-- The root over the nodes of a whole source; it starts at the first token and goes on to the end.
A source that was patched has an error. -/
def rootOf (cs : List Char) (patched : Bool) (s : State) : Node :=
  let start := firstPlace cs
  let children := ((s.passed ++ s.parts).reverse).map (·.node)
  .mk rootKind (Utf8.writeChars start.rest) children true false
    (patched || children.any Node.hasError) start.point none none

/-- The number of bytes of a source. -/
def byteLength (cs : List Char) : Nat := cs.foldr (fun c n => c.utf8Size + n) 0

/-- The tree of a source with some patches, or where its grammar is stuck. -/
def attempt (dialect : Dialect) (cs : List Char) (patches : List Patch) : Except Stuck Node :=
  let length := byteLength cs
  let ctx : Context := { dialect := dialect, length := length, patches := patches }
  let start := Cursor.ofChars cs
  match Grammar.program (Grammar.depthFor length) ctx
      (State.land ctx { cursor := start, last := start } start) with
  | .ok s => .ok (rootOf cs (!patches.isEmpty) s)
  | .error e => .error e

namespace Recovery

/-! ### Remedies -/

/-- What an error costs, with or without anything passed over. -/
def errorCost : Nat := 500

/-- What a token or node that is passed over costs. -/
def partCost : Nat := 100

/-- What a line that is passed over costs. -/
def lineCost : Nat := 30

/-- What a missing token costs. -/
def missingCost : Nat := 110

/-- The tokens that may be supplied. -/
def suppliedKinds : List String := [Reader.suppliedKind, ")", "]", "\x7d", ";"]

/-- The greatest number of nodes before an error that are passed over. -/
def nodeLimit : Nat := 16

/-- A remedy: the patch, the place from which the grammar has to go on, and the cost. -/
structure Remedy where
  patch : Patch
  goal : Nat
  cost : Nat

/-- The length of the token at the start of a text, whatever it is. -/
def tokenLength (cs : List Char) : Nat :=
  let n := max (Lexeme.name cs) (max (Lexeme.number cs) (Lexeme.symbol cs).length)
  max 1 n

/-- The places at which the tokens from a cursor on start and end, a number of them at most. -/
def tokensFrom (ctx : Context) : Nat → Cursor → List (Cursor × Cursor)
  | 0, _ => []
  | n + 1, k =>
    if k.rest.isEmpty then []
    else
      let stop := k.advance (tokenLength k.rest)
      (k, stop) :: tokensFrom ctx n (passBlanks ctx (ctx.length + 1) stop []).1

/-- The cost of passing over a stretch with a number of parts. -/
def holeCost (start stop : Cursor) (parts : Nat) : Nat :=
  errorCost + (stop.offset - start.offset) + lineCost * (stop.row - start.row) + partCost * parts

/-- The remedies that pass over a number of tokens after an error, and nodes before it.  The places
are the start of the first node passed over, with the number of nodes from there to the error, the
end of the last token passed over, and the start of the next one. -/
def holes (starts : List (Cursor × Nat)) (skipped : Nat) (stop next : Cursor) : List Remedy :=
  starts.filterMap fun (start, nodes) =>
    if start.offset < next.offset then
      some ⟨.hole start.offset next.offset, next.offset,
        holeCost start stop (nodes + skipped)⟩
    else none

/-- The remedies for an error, given the tokens from the error on. -/
def remediesFor (e : Stuck) (starts : List (Cursor × Nat)) (skipped : Nat) (stop : Cursor) :
    List (Cursor × Cursor) → Cursor → List Remedy
  | [], finish => holes starts skipped stop finish
  | (start, after) :: more, finish =>
    holes starts skipped stop start ++ remediesFor e starts (skipped + 1) after more finish

/-- All remedies for an error. -/
def remedies (ctx : Context) (e : Stuck) (finish : Cursor) : List Remedy :=
  let before := (e.parts.take nodeLimit).zipIdx.map fun (p, i) => (p.start, i + 1)
  let tokens := tokensFrom ctx (ctx.length + 1) e.cursor
  suppliedKinds.map (fun kind =>
    ⟨.missing e.cursor.offset kind, e.cursor.offset, errorCost + missingCost⟩) ++
    remediesFor e ((e.cursor, 0) :: before) 0 e.last tokens finish

/-- Whether the grammar goes on past the goal of a remedy. -/
def works (dialect : Dialect) (cs : List Char) (patches : List Patch) (r : Remedy) : Bool :=
  match attempt dialect cs (r.patch :: patches) with
  | .ok _ => true
  | .error e => r.goal < e.cursor.offset

/-- The cheapest of some remedies that works. -/
def cheapest (works : Remedy → Bool) (remedies : List Remedy) : Option Remedy :=
  remedies.foldl (fun best r =>
    match best with
    | none => if works r then some r else none
    | some b => if r.cost < b.cost && works r then some r else best) none

/-- The tree of a source with some patches, and with remedies for the errors that are left, a number
of them at most. -/
def recovered (dialect : Dialect) (cs : List Char) : Nat → List Patch → Option Node
  | 0, _ => none
  | n + 1, patches =>
    match attempt dialect cs patches with
    | .ok root => some root
    | .error e =>
      let ctx : Context := { dialect := dialect, length := byteLength cs, patches := patches }
      let finish := (Cursor.ofChars cs).advance cs.length
      match cheapest (works dialect cs patches) (remedies ctx e finish) with
      | some r => recovered dialect cs n (r.patch :: patches)
      | none => none

/-- The greatest number of errors that are remedied. -/
def errorLimit : Nat := 30

end Recovery

/-- The root of a source that is one error. -/
def errorRoot (cs : List Char) : Node :=
  let start := firstPlace cs
  .mk Node.errorKind (Utf8.writeChars start.rest) [] true false true start.point none none

/-- The tree of a source; one without a remedy for its errors is an error as a whole. -/
def tree (dialect : Dialect) (cs : List Char) : Node :=
  (Recovery.recovered dialect cs Recovery.errorLimit []).getD (errorRoot cs)

end Source

end PullNotes
