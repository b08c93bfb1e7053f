import Calculator.Evaluation
import Calculator.Proofs.Lexer.Tokens
import Calculator.Proofs.Parser.Complaint
import Calculator.Proofs.Parser.Told

/-! # The events of an evaluation are a faithful account of it

The recorded events of a source whose tokens are read: the tokens that the grammar takes are those
read, up to where it stops, and the events are the program of a stack machine that comes to the
value of the source, or stops where the evaluation does (`evaluate_faithful`). -/

namespace Calculator

/-! ### The events of reading -/

/-- The event that tells of a token. -/
def Placed.event (placed : Placed) : Event := .token placed.token placed.start.index

namespace Lexer

theorem events_read {l : Lexer} {piece : Piece} {placed : Placed}
    (h : (l.read piece).result = .ok placed) : (l.read piece).events = #[placed.event] := by
  unfold read at h ⊢
  split at h <;> cases h
  rfl

theorem events_readAll {l : Lexer} {pieces : List Piece} {tokens : Array Placed}
    (h : (l.readAll pieces).result = .ok tokens) :
    (l.readAll pieces).events = tokens.map Placed.event := by
  induction pieces generalizing l tokens with
  | nil =>
    cases h
    rw [Array.map_empty]
    rfl
  | cons piece pieces ih =>
    rw [readAll_cons] at h ⊢
    cases hfirst : (l.read piece).result with
    | error e =>
      rw [Outcome.result_bind_of_error hfirst] at h
      cases h
    | ok first =>
      rw [Outcome.result_bind_of_ok hfirst, Outcome.result_map] at h
      rw [Outcome.events_bind_of_ok hfirst, Outcome.events_map, events_read hfirst]
      cases hrest : ((l.read piece).state.readAll pieces).result with
      | error e =>
        rw [hrest] at h
        cases h
      | ok more =>
        rw [hrest] at h
        cases h
        rw [ih hrest]
        simp

theorem events_tokens {source : Source} {tokens : List Placed}
    (h : (start source).tokens.result = .ok tokens) :
    (start source).tokens.events.toList = tokens.map Placed.event ++ [.lexed tokens.length] := by
  obtain ⟨read, hread, rfl⟩ := readAll_of_tokens h
  have hevents : (start source).tokens.events = read.map Placed.event ++ #[.lexed read.size] :=
    (Outcome.events_bind_of_ok hread _).trans (by rw [events_readAll hread])
  rw [hevents]
  simp

end Lexer

/-! ### The events before parsing -/

section Opening
variable (name : String) (tokens : List Placed)

/-- The events before parsing. -/
def opening : List Event := .evaluating name :: (tokens.map Placed.event ++ [.lexed tokens.length])

theorem readTokens_opening : readTokens (opening name tokens) = tokens.map Placed.token := by
  have htokens : readTokens (tokens.map Placed.event) = tokens.map Placed.token := by
    induction tokens with
    | nil => rfl
    | cons first rest ih => exact congrArg (first.token :: ·) ih
  show readTokens (tokens.map Placed.event ++ [.lexed tokens.length]) = _
  rw [readTokens_append, htokens]
  exact List.append_nil _

theorem eatenTokens_opening : eatenTokens (opening name tokens) = [] := by
  have htokens : eatenTokens (tokens.map Placed.event) = [] := by
    induction tokens with
    | nil => rfl
    | cons first rest ih => exact ih
  show eatenTokens (tokens.map Placed.event ++ [.lexed tokens.length]) = _
  rw [eatenTokens_append, htokens]
  rfl

theorem replay_opening (stack : List Number) : replay stack (opening name tokens) = some stack := by
  have htokens : replay stack (tokens.map Placed.event) = some stack := by
    induction tokens with
    | nil => rfl
    | cons first rest ih => exact ih
  show replay stack (tokens.map Placed.event ++ [.lexed tokens.length]) = _
  exact replay_append_of_some htokens

end Opening

/-! ### The account -/

/-- **The events account for the result** of an evaluation of these tokens. -/
structure Faithful (tokens : List Placed) (events : List Event) (result : Except Error Number) :
    Prop where
  /-- All the tokens are told as they are read. -/
  read : readTokens events = tokens.map Placed.token
  /-- They are taken in the order in which they are read. -/
  eaten : eatenTokens events <+: readTokens events
  /-- A value takes all of them. -/
  eaten_of_ok : ∀ v, result = .ok v → eatenTokens events = readTokens events
  /-- So does an expression that goes on behind them. -/
  eaten_of_ended : ∀ e, result = .error e → e.kind = .unexpectedEnd →
    eatenTokens events = readTokens events
  /-- A token that is reported is the first one that is not taken. -/
  eaten_of_found : ∀ e, result = .error e →
    e.kind ∈ [.unexpectedToken, .trailingInput, .nestingTooDeep] →
      ∃ before found rest, tokens = before ++ found :: rest ∧ e.start = found.start ∧
        e.stop = found.stop ∧ eatenTokens events = before.map Placed.token
  /-- Every operator finds the values that it is shown with on top of the stack. It has a result, or
  nothing follows but the failure. -/
  operands : ∀ before l op r rest, events = before ++ .fold l op r :: rest →
    ∃ top below more, replay [] before = some (top :: below :: more) ∧ below.text = l.text ∧
      top.text = r.text ∧
        ((∃ value, below.apply op top = .ok value) ∨
          ∃ e, result = .error e ∧ rest = [.failed e.kind])
  /-- The value is the one that the replay leaves alone on the stack. -/
  value : ∀ v, result = .ok v ↔
    replay [] events = some [v] ∧ events.getLast? = some (.evaluated v) ∧
      folds events = operators (readTokens events)

/-! ### The events of parsing in their place -/

section Parsed

/-- The events of an evaluation that parses the tokens with this outcome. -/
def trace (name : String) (tokens : List Placed) (o : Outcome Parser Number) : List Event :=
  opening name tokens ++ o.events.toList ++ [.ending o.result]

variable (name : String) (tokens : List Placed) {p : Parser} {o : Outcome Parser Number}
  {v : Number}

theorem ending_silent (result : Except Error Number) :
    readTokens [.ending result] = [] ∧ eatenTokens [.ending result] = [] ∧
      ∀ stack, replay stack [.ending result] = some stack := by
  cases result <;> exact ⟨rfl, rfl, fun _ => rfl⟩

theorem readTokens_trace {before : List Number} {after : Number → List Number}
    (h : Parser.Told before p after o) :
    readTokens (trace name tokens o) = tokens.map Placed.token := by
  rw [trace, readTokens_append, readTokens_append, readTokens_opening, h.read,
    (ending_silent o.result).1, List.append_nil, List.append_nil]

theorem eatenTokens_trace :
    eatenTokens (trace name tokens o) = eatenTokens o.events.toList := by
  rw [trace, eatenTokens_append, eatenTokens_append, eatenTokens_opening,
    (ending_silent o.result).2.1, List.append_nil, List.nil_append]

theorem account_trace (h : Parser.Told [] p ([·]) o) :
    Account [] (opening name tokens ++ o.events.toList) (o.result.map ([·])) :=
  h.account.append (replay_opening name tokens [])

theorem replay_trace (h : Parser.Told [] p ([·]) o) (hv : o.result = .ok v) :
    replay [] (trace name tokens o) = some [v] := by
  have haccount := account_trace name tokens h
  rw [hv] at haccount
  cases haccount with
  | runs hreplay => exact (replay_append_of_some hreplay).trans ((ending_silent _).2.2 [v])

/-- Nothing but the failure follows an operator without a result. -/
theorem operands_trace (h : Parser.Told [] p ([·]) o) {before rest : List Event} {l r : Number}
    {op : Operator} (hevents : trace name tokens o = before ++ .fold l op r :: rest) :
    ∃ top below more, replay [] before = some (top :: below :: more) ∧ below.text = l.text ∧
      top.text = r.text ∧
        ((∃ value, below.apply op top = .ok value) ∨
          ∃ e, o.result = .error e ∧ rest = [.failed e.kind]) := by
  rcases append_cons_cases hevents.symm with
    ⟨-, hending, -⟩ | ⟨more, -, hnil⟩ | ⟨more, hall, hrest⟩
  · cases hr : o.result <;> rw [hr] at hending <;> cases hending
  · simp at hnil
  · have haccount := account_trace name tokens h
    obtain ⟨top, below, others, hbefore, hl, hr, hresult⟩ := haccount.operands hall
    refine ⟨top, below, others, hbefore, hl, hr, hresult.imp id ?_⟩
    rintro ⟨rfl, e, he⟩
    cases hresult : o.result with
    | ok value =>
      rw [hresult] at he
      cases he
    | error e' => exact ⟨e', rfl, by rw [hrest, hresult]; rfl⟩

theorem result_of_getLast? (h : (trace name tokens o).getLast? = some (.evaluated v)) :
    o.result = .ok v := by
  rw [trace, List.getLast?_append] at h
  cases hr : o.result <;> rw [hr] at h <;> cases h
  rfl

end Parsed

section Parse

variable (name : String) (tokens : List Placed) (eof : Position)

theorem eatenTokens_parse :
    eatenTokens (trace name tokens (Parser.parse { tokens, eof })) ++
        (Parser.parse { tokens, eof }).state.tokens.map Placed.token =
      tokens.map Placed.token := by
  rw [eatenTokens_trace]
  exact (Parser.tells_parse { tokens, eof } []).eaten

theorem readTokens_parse :
    readTokens (trace name tokens (Parser.parse { tokens, eof })) = tokens.map Placed.token :=
  readTokens_trace name tokens (Parser.tells_parse { tokens, eof } [])

theorem eatenTokens_of_nil (h : (Parser.parse { tokens, eof }).state.tokens = []) :
    eatenTokens (trace name tokens (Parser.parse { tokens, eof })) =
      readTokens (trace name tokens (Parser.parse { tokens, eof })) := by
  have heaten := eatenTokens_parse name tokens eof
  rw [h, List.map_nil, List.append_nil] at heaten
  rw [heaten, readTokens_parse]

/-- An expression with a value applies all its operators: the stack that is left has one value, and
a phrase has one literal more than operators. -/
theorem folds_parse {v : Number} (h : (Parser.parse { tokens, eof }).result = .ok v) :
    folds (trace name tokens (Parser.parse { tokens, eof })) =
      operators (tokens.map Placed.token) := by
  have hreplay := replay_trace name tokens (Parser.tells_parse { tokens, eof } []) h
  obtain ⟨phrase, hphrase, -⟩ := Parser.exists_phrase_of_parse h
  have hcount := phrase.literals_tokens
  have hlength := length_replay hreplay
  rw [eatenTokens_of_nil name tokens eof (Parser.tokens_of_parse h), readTokens_parse,
    List.length_singleton, List.length_nil] at hlength
  rw [hphrase] at hcount
  omega

/-- **The events of parsing account for its result.** -/
theorem faithful_parse :
    Faithful tokens (trace name tokens (Parser.parse { tokens, eof }))
      (Parser.parse { tokens, eof }).result := by
  have htold := Parser.tells_parse { tokens, eof } []
  have hread := readTokens_parse name tokens eof
  have heaten := eatenTokens_parse name tokens eof
  have hall := eatenTokens_of_nil name tokens eof
  refine ⟨hread, ?_, fun v hv => hall (Parser.tokens_of_parse hv), fun e he hkind => ?_,
    fun e he hkind => ?_, fun before l op r rest => operands_trace name tokens htold, fun v => ?_⟩
  · rw [hread]
    exact ⟨_, heaten⟩
  · exact hall ((Parser.parse_complaint he).left_of_end hkind)
  · obtain ⟨before, found, rest, hsplit, hstart, hstop, hleft⟩ :=
      (Parser.parse_complaint he).left_of_found hkind
    refine ⟨before, found, rest, hsplit, hstart, hstop, ?_⟩
    rw [hleft] at heaten
    exact List.append_cancel_right (heaten.trans (by rw [hsplit, List.map_append]))
  · constructor
    · intro hv
      refine ⟨replay_trace name tokens htold hv, ?_, ?_⟩
      · rw [trace, List.getLast?_append, hv]
        rfl
      · rw [hread]
        exact folds_parse name tokens eof hv
    · rintro ⟨-, hlast, -⟩
      exact result_of_getLast? name tokens hlast

end Parse

/-- **The events of an evaluation are a faithful account of it**, if its tokens are read. -/
theorem evaluate_faithful (source : Source) (tokens : List Placed)
    (h : (Lexer.start source).tokens.result = .ok tokens) :
    Faithful tokens source.evaluate.events.toList source.evaluate.result := by
  have hresult := Source.result_evaluate_of_ok h
  have hevents : source.evaluate.events.toList = trace source.name tokens
      (Parser.parse { tokens, eof := (Lexer.start source).tokens.state.position }) := by
    rw [Source.events_evaluate_of_ok h, hresult, trace, opening, ← Lexer.events_tokens h]
    simp
  rw [hevents, hresult]
  exact faithful_parse source.name tokens _

/-- In `(2+3)*(8/0` the quotient has no result, and the parenthesis that is missing is not
reported. -/
theorem evaluate_faithful_quotient :
    let source : Source := ⟨"<test>", "(2+3)*(8/0"⟩
    let placed := fun (i j : Int) token => (⟨token, source.position i, source.position j⟩ : Placed)
    let tokens : List Placed :=
      [placed 0 1 .openParen, placed 1 2 (.number (.integer 2)), placed 2 3 (.operator .add),
        placed 3 4 (.number (.integer 3)), placed 4 5 .closeParen, placed 5 6 (.operator .mul),
        placed 6 7 .openParen, placed 7 8 (.number (.integer 8)), placed 8 9 (.operator .div),
        placed 9 10 (.number (.integer 0))]
    (Lexer.start source).tokens.result = .ok tokens ∧
      Faithful tokens source.evaluate.events.toList source.evaluate.result := by
  intro source placed tokens
  have h : (Lexer.start source).tokens.result = .ok tokens := by decide
  exact ⟨h, evaluate_faithful source tokens h⟩

end Calculator
