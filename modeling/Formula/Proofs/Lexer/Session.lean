import Formula.Proofs.Lexer.Tiling
import Formula.Proofs.Parser.Reader

/-!
# Looking ahead is exact and leaves no trace

A session is a list of requests to a cursor, each answered by a computation that moves it. Looking
some tokens ahead scans with the same routine that moves, and puts back what was unread. It gives the
token to which so many moves lead, and no later answer tells that it was asked,
`look_ahead_exact`.
-/

namespace Formula

namespace Cursor

variable {cursor : Cursor}

/-- A cursor has settled when from the end of input it moves to the same end of input. -/
def Settled (cursor : Cursor) : Prop :=
  cursor.token.hasKind .endOfInput = true → cursor.moveNext.2 = cursor

/-- Behind the end of input there is only the same end of input. -/
theorem next_of_end {unread : Unread} (h : unread.next.1.hasKind .endOfInput = true) :
    unread.next.2.next = unread.next := by
  rcases hstart : unread.skipBlanks with ⟨position, _ | ⟨first, rest⟩⟩
  · have hnext : unread.next = (.endOfInput position, ⟨position, []⟩) := by
      rw [Unread.next, hstart]
    rw [hnext]
    rfl
  · rw [Unread.next, hstart] at h
    exact absurd (beq_iff_eq.1 h) (Unread.read_kind_ne first rest)

/-- A cursor that has moved has settled. -/
theorem settled_move_next (cursor : Cursor) : cursor.moveNext.2.Settled := by
  intro h
  change Cursor.mk cursor.source cursor.unread.next.2.next.2 cursor.unread.next.2.next.1 = _
  rw [next_of_end h]
  rfl

/-- Moves from the end of input stay there. -/
theorem moved_of_end (hsettled : cursor.Settled) (h : cursor.token.hasKind .endOfInput = true)
    (count : Nat) : cursor.moved count = cursor := by
  induction count with
  | zero => rfl
  | succ count ih =>
      rw [moved, ih]
      exact hsettled h

/-- The first of some moves may be taken apart. -/
theorem moved_succ (cursor : Cursor) (count : Nat) :
    cursor.moved (count + 1) = cursor.moveNext.2.moved count := by
  induction count with
  | zero => rfl
  | succ count ih =>
      rw [moved, ih]
      rfl

/-- Moves one after the other. -/
theorem moved_add (cursor : Cursor) (count more : Nat) :
    cursor.moved (count + more) = (cursor.moved count).moved more := by
  induction more with
  | zero => rfl
  | succ more ih =>
      rw [← Nat.add_assoc, moved, ih]
      rfl

/-- After some moves a settled cursor has settled. -/
theorem Settled.moved (hsettled : cursor.Settled) (count : Nat) : (cursor.moved count).Settled := by
  cases count with
  | zero => exact hsettled
  | succ count => exact settled_move_next _

/-- The token that a settled cursor sees ahead is the one to which it moves. -/
theorem peek_token_eq (hsettled : cursor.Settled) (count : Nat) :
    cursor.peekToken count = (cursor.moved count).token := by
  induction count generalizing cursor with
  | zero => rfl
  | succ count ih =>
      rw [peekToken, lookAhead]
      split
      · rename_i h
        rw [moved_of_end hsettled h]
      · rw [moved_succ]
        exact ih (settled_move_next cursor)

end Cursor

namespace Reader

/-- What a cursor can be asked. -/
inductive Request where
  | moveNext
  | peekChar (delta : Int)
  | peekToken (count : Nat)
  | isAtEnd

/-- What it answers. -/
inductive Answer where
  | flag (b : Bool)
  | char (c : Char)
  | token (t : Token)

/-- Whether a request is only a look. -/
def Request.isPeek : Request → Bool
  | .peekChar _ | .peekToken _ => true
  | .moveNext | .isAtEnd => false

/-- A request with its answer, and the current token and the position after it. -/
structure Entry where
  request : Request
  answer : Answer
  token : Token
  position : Nat

/-- Answers a request. -/
def perform : Request → Reader Answer
  | .moveNext => do
    advance
    return .flag (!(← current).hasKind .endOfInput)
  | .peekChar delta => return .char ((← get).peekChar delta)
  | .peekToken count => return .token (← peek count)
  | .isAtEnd => return .flag (← get).isAtEnd

/-- Answers requests one after the other and keeps an entry of each. -/
def session : List Request → Reader (List Entry)
  | [] => return []
  | request :: requests => do
    let answer ← perform request
    let cursor ← get
    let entries ← session requests
    return ⟨request, answer, cursor.token, cursor.position⟩ :: entries

/-- The answer of a cursor to a request. -/
def Request.answer (cursor : Cursor) : Request → Answer
  | .moveNext => .flag cursor.moveNext.1
  | .peekChar delta => .char (cursor.peekChar delta)
  | .peekToken count => .token (cursor.peekToken count)
  | .isAtEnd => .flag cursor.isAtEnd

/-- The cursor after a request; only moving changes it. -/
def Request.after (cursor : Cursor) : Request → Cursor
  | .moveNext => cursor.moveNext.2
  | .peekChar _ | .peekToken _ | .isAtEnd => cursor

/-- The entry of a request to a cursor. -/
def Request.entry (cursor : Cursor) (request : Request) : Entry :=
  ⟨request, request.answer cursor, (request.after cursor).token, (request.after cursor).position⟩

/-- The entries of requests that are made one after the other. -/
def entries (cursor : Cursor) : List Request → List Entry
  | [] => []
  | request :: requests => request.entry cursor :: entries (request.after cursor) requests

/-- The cursor after requests that are made one after the other. -/
def finish (cursor : Cursor) (requests : List Request) : Cursor :=
  requests.foldl Request.after cursor

/-- A request is answered without failure. -/
theorem run_perform (request : Request) (cursor : Cursor) :
    (perform request).run cursor = .ok (request.answer cursor, request.after cursor) := by
  cases request with
  | moveNext | peekChar | isAtEnd => rfl
  | peekToken count =>
      show ((peek count).run cursor >>= fun result => Except.ok (Answer.token result.1, result.2)) = _
      rw [run_peek]
      rfl

/-- A session never fails; its entries are those of its requests. -/
theorem run_session (requests : List Request) (cursor : Cursor) :
    (session requests).run cursor = .ok (entries cursor requests, finish cursor requests) := by
  induction requests generalizing cursor with
  | nil => rfl
  | cons request requests ih =>
      show ((perform request).run cursor >>= fun result =>
        (session requests).run result.2 >>= fun rest =>
          Except.ok (⟨request, result.1, result.2.token, result.2.position⟩ :: rest.1, rest.2)) = _
      rw [run_perform]
      show ((session requests).run (request.after cursor) >>= fun rest =>
        Except.ok (request.entry cursor :: rest.1, rest.2)) = _
      rw [ih]
      rfl

/-- A look leaves the cursor as it was. -/
theorem after_of_is_peek {request : Request} (h : request.isPeek = true) (cursor : Cursor) :
    request.after cursor = cursor := by
  cases request with
  | peekChar | peekToken => rfl
  | moveNext | isAtEnd => cases h

/-- Without the looks a session has the entries of the other requests, and the same end. -/
theorem entries_filter (cursor : Cursor) (requests : List Request) :
    entries cursor (requests.filter (!·.isPeek)) =
        (entries cursor requests).filter (!·.request.isPeek) ∧
      finish cursor (requests.filter (!·.isPeek)) = finish cursor requests := by
  induction requests generalizing cursor with
  | nil => exact ⟨rfl, rfl⟩
  | cons request requests ih =>
      obtain ⟨hentries, hfinish⟩ := ih (request.after cursor)
      cases hpeek : request.isPeek with
      | true =>
          have hafter := after_of_is_peek hpeek cursor
          rw [hafter] at hentries hfinish
          rw [List.filter_cons_of_neg (by simp [hpeek]), entries,
            List.filter_cons_of_neg (by simp [Request.entry, hpeek]), hafter]
          refine ⟨hentries, hfinish.trans ?_⟩
          rw [finish, finish, List.foldl_cons, hafter]
      | false =>
          rw [List.filter_cons_of_pos (by simp [hpeek]), entries, entries,
            List.filter_cons_of_pos (by simp [Request.entry, hpeek]), hentries]
          exact ⟨rfl, hfinish⟩

/-- Requests keep a settled cursor settled. -/
theorem settled_finish {cursor : Cursor} (h : cursor.Settled) (requests : List Request) :
    (finish cursor requests).Settled := by
  induction requests generalizing cursor with
  | nil => exact h
  | cons request requests ih =>
      refine ih ?_
      cases request with
      | moveNext => exact Cursor.settled_move_next cursor
      | peekChar | peekToken | isAtEnd => exact h

/-- Requests in two parts. -/
theorem finish_append (cursor : Cursor) (before after : List Request) :
    finish cursor (before ++ after) = finish (finish cursor before) after :=
  List.foldl_append

/-- The entries of the second part of some requests are behind those of the first. -/
theorem entries_append (cursor : Cursor) (before after : List Request) :
    entries cursor (before ++ after) =
      entries cursor before ++ entries (finish cursor before) after := by
  induction before generalizing cursor with
  | nil => rfl
  | cons request before ih =>
      rw [List.cons_append, entries, ih]
      rfl

/-- Every request has an entry. -/
theorem length_entries (cursor : Cursor) (requests : List Request) :
    (entries cursor requests).length = requests.length := by
  induction requests generalizing cursor with
  | nil => rfl
  | cons request requests ih => exact congrArg Nat.succ (ih _)

/-- Moves are moves. -/
theorem finish_moves (cursor : Cursor) (count : Nat) :
    finish cursor (List.replicate count .moveNext) = cursor.moved count := by
  induction count generalizing cursor with
  | zero => rfl
  | succ count ih =>
      rw [Cursor.moved_succ]
      exact ih cursor.moveNext.2

/-- A look among some requests, the first of which moves, sees the token to which so many moves would
lead in its place. -/
theorem answer_of_peek (cursor : Cursor) {requests before after : List Request} {count : Nat}
    (h : .moveNext :: requests = before ++ .peekToken count :: after) :
    ((entries cursor (.moveNext :: requests))[before.length]?).map Entry.answer =
      some (.token (finish cursor (before ++ List.replicate count .moveNext)).token) ∧
    (finish cursor before).Settled := by
  have hsettled : (finish cursor before).Settled := by
    cases before with
    | nil => cases h
    | cons request before =>
        obtain ⟨rfl, -⟩ := List.cons.inj h
        exact settled_finish (Cursor.settled_move_next cursor) before
  refine ⟨?_, hsettled⟩
  rw [h, entries_append, List.getElem?_append_right (length_entries _ _).le, length_entries,
    Nat.sub_self, finish_append, finish_moves, ← Cursor.peek_token_eq hsettled]
  rfl

/-- In every session on a text that begins with a move, looking some tokens ahead gives the token to
which so many moves would lead, from the end of input on the same one for all of them. All looks can
be left out: the other requests have the same answers, tokens and positions, and the cursor ends in
the same place. -/
theorem look_ahead_exact (text : String) (requests : List Request) :
    ∃ log last,
      (session (.moveNext :: requests)).run (.start text) = .ok (log, last) ∧
      (session ((.moveNext :: requests).filter (!·.isPeek))).run (.start text) =
        .ok (log.filter (!·.request.isPeek), last) ∧
      ∀ before count after, .moveNext :: requests = before ++ .peekToken count :: after →
        ∃ way there,
          (session (before ++ List.replicate count .moveNext)).run (.start text) =
            .ok (way, there) ∧
          log[before.length]?.map Entry.answer = some (.token there.token) ∧
          (there.token.hasKind .endOfInput = true → ∀ more, ∃ way',
            (session (before ++ List.replicate (count + more) .moveNext)).run (.start text) =
              .ok (way', there)) := by
  obtain ⟨hentries, hfinish⟩ := entries_filter (.start text) (.moveNext :: requests)
  refine ⟨_, _, run_session _ _, ?_, fun before count after h => ?_⟩
  · rw [run_session, hentries, hfinish]
  · obtain ⟨hanswer, hsettled⟩ := answer_of_peek (.start text) h
    refine ⟨_, _, run_session _ _, hanswer, fun hend more => ?_⟩
    have hfurther := run_session (before ++ List.replicate (count + more) .moveNext) (.start text)
    rw [finish_append, finish_moves] at hend ⊢
    rw [finish_append, finish_moves, Cursor.moved_add,
      Cursor.moved_of_end (hsettled.moved count) hend] at hfurther
    exact ⟨_, hfurther⟩

/-- On the text `a` a look five tokens ahead sees the end of input at position 1, and without it the
cursor answers the same. -/
theorem look_ahead_exact_past_end :
    ∃ log last,
      (session [.moveNext, .peekToken 5, .isAtEnd]).run (.start "a") = .ok (log, last) ∧
      log[1]?.map Entry.answer = some (.token (.endOfInput 1)) ∧
      (session [.moveNext, .isAtEnd]).run (.start "a") =
        .ok (log.filter (!·.request.isPeek), last) := by
  obtain ⟨log, last, hrun, hwithout, hexact⟩ := look_ahead_exact "a" [.peekToken 5, .isAtEnd]
  obtain ⟨way, there, hthere, hanswer, -⟩ := hexact [.moveNext] 5 [.isAtEnd] rfl
  refine ⟨log, last, hrun, hanswer.trans ?_, hwithout⟩
  have hmoves : (session (List.replicate 6 .moveNext)).run (.start "a") = .ok (way, there) := hthere
  rw [run_session] at hmoves
  obtain rfl := congrArg Prod.snd (Except.ok.inj hmoves)
  rfl

end Reader

end Formula
