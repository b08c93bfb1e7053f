import Calculator.Proofs.Parser.Descent
import Calculator.Proofs.Parser.Watched

/-! # What the recursion keeps to

What is noted of a watched rule holds relative to the parser at which the watch begins
(`Note.Holds`), and goes over to an earlier parser if the counter of open parentheses has kept up
with the tokens taken in between (`Tallies`). The invariant of a watched rule is `Sound`: besides
its notes it bounds the number of calls, for which the tokens pay. A turn of a loop keeps it
(`sound_watchNext`), hence the whole loop (`sound_watchFrom`); a group keeps it with one more
parenthesis open (`sound_watchGroup`), and so does the recursion as long as its budget lasts
(`sound_watchFactor`). -/

namespace Calculator.Parser

/-! ### The counter of open parentheses -/

/-- Between the two parsers the counter has kept up with the tokens taken. -/
def Tallies (p q : Parser) : Prop :=
  ∃ taken, p.tokens = taken ++ q.tokens ∧
    p.depth + opened (taken.map Placed.token) = q.depth + closed (taken.map Placed.token)

theorem Tallies.refl (p : Parser) : Tallies p p := ⟨[], rfl, rfl⟩

theorem Tallies.trans {p q r : Parser} (first : Tallies p q) (second : Tallies q r) :
    Tallies p r := by
  obtain ⟨front, hp, hfront⟩ := first
  obtain ⟨back, hq, hback⟩ := second
  refine ⟨front ++ back, by rw [hp, hq, List.append_assoc], ?_⟩
  rw [List.map_append, opened_append, closed_append]
  omega

theorem tallies_of_cons {p q : Parser} {found : Placed} (hp : p.tokens = found :: q.tokens)
    (h : p.depth + opened [found.token] = q.depth + closed [found.token]) : Tallies p q :=
  ⟨[found], hp, h⟩

section Single

variable {p q : Parser} {found : Placed} {rest : List Placed}

theorem tallies_number {v : Number} (hp : p.tokens = found :: rest)
    (hf : found.token = .number v) : Tallies p { p with tokens := rest } :=
  tallies_of_cons hp (by rw [hf]; rfl)

theorem tallies_operator {op : Operator} (hp : p.tokens = found :: rest)
    (hf : found.token = .operator op) : Tallies p p.skip :=
  tallies_of_cons (by rw [skip, hp]; rfl) (by rw [hf]; rfl)

theorem tallies_inside (hp : p.tokens = found :: rest) (hf : found.token = .openParen) :
    Tallies p (p.inside rest) :=
  tallies_of_cons hp (by rw [hf]; rfl)

theorem tallies_close (hq : p.tokens = found :: q.tokens) (hf : found.token = .closeParen)
    (hd : p.depth = q.depth + 1) : Tallies p q :=
  tallies_of_cons hq (by rw [hf, hd]; rfl)

end Single

/-! ### What is noted -/

/-- What a note says of a watch that begins with the parser. -/
def Note.Holds (p : Parser) : Note → Prop
  | enter _ active q => Tallies p q ∧ q.depth ≤ maxDepth ∧ active ≤ q.depth + 1
  | leave _ q o => ∀ v, o.result = .ok v → o.state.tokens.length < q.tokens.length
  | turn q operand => operand.state.tokens.length + 1 ≤ q.tokens.length ∧
      ∀ v, operand.result = .ok v → operand.state.tokens.length + 2 ≤ q.tokens.length
  | release depth => 0 < depth ∧ depth ≤ maxDepth
  | cut => False

theorem Note.Holds.of_tallies {p q : Parser} {note : Note} (h : note.Holds q)
    (hpq : Tallies p q) : note.Holds p := by
  cases note with
  | enter => exact ⟨hpq.trans h.1, h.2⟩
  | leave | turn | release | cut => exact h

/-- **What a watched rule keeps to** on a parser, with so many calls more than it has tokens to pay
for: a token pays for three. -/
structure Sound (extra : Nat) (p : Parser) (w : Watched Number) : Prop where
  follows : Follows p w.outcome.state
  tallies : ∀ v, w.outcome.result = .ok v → Tallies p w.outcome.state
  notes : ∀ note ∈ w.notes, note.Holds p
  broken : ∀ q o e, .turn q o ∈ w.notes → o.result = .error e → w.outcome.result = .error e
  spent : w.calls + 3 * w.outcome.state.tokens.length ≤ 3 * p.tokens.length + extra
  spare : ∀ v, w.outcome.result = .ok v →
    w.calls + 3 * w.outcome.state.tokens.length + 3 ≤ 3 * p.tokens.length + extra

theorem Sound.takes {extra : Nat} {p : Parser} {w : Watched Number} (h : Sound extra p w)
    (hextra : extra ≤ 2) (v : Number) (hv : w.outcome.result = .ok v) :
    w.outcome.state.tokens.length < p.tokens.length := by
  have := h.spare v hv
  omega

theorem Sound.mono {extra more : Nat} {p : Parser} {w : Watched Number} (h : Sound extra p w)
    (hle : extra ≤ more) : Sound more p w where
  follows := h.follows
  tallies := h.tallies
  notes := h.notes
  broken := h.broken
  spent := Nat.le_trans h.spent (Nat.add_le_add_left hle _)
  spare v hv := Nat.le_trans (h.spare v hv) (Nat.add_le_add_left hle _)

theorem sound_of_error {extra : Nat} {p : Parser} {w : Watched Number} {e : Error}
    (he : w.outcome.result = .error e) (hfollows : Follows p w.outcome.state)
    (hnotes : ∀ note ∈ w.notes, note.Holds p)
    (hbroken : ∀ q o e, .turn q o ∈ w.notes → o.result = .error e → w.outcome.result = .error e)
    (hspent : w.calls + 3 * w.outcome.state.tokens.length ≤ 3 * p.tokens.length + extra) :
    Sound extra p w where
  follows := hfollows
  tallies v hv := by rw [he] at hv; cases hv
  notes := hnotes
  broken := hbroken
  spent := hspent
  spare v hv := by rw [he] at hv; cases hv

/-- A call costs one more than what it does. -/
theorem sound_watchCall {extra active : Nat} {p : Parser} {body : WatchedRule Number}
    (h : Sound extra p (body p)) (hextra : extra ≤ 2) (hd : p.depth ≤ maxDepth)
    (hactive : active ≤ p.depth + 1) (kind : Phrase.Kind) :
    Sound (extra + 1) p (watchCall kind active body p) := by
  have hcalls : (watchCall kind active body p).calls = (body p).calls + 1 := by
    simp [watchCall, Watched.calls, List.countP_cons, Note.isEnter]
  refine ⟨h.follows, h.tallies, ?_, ?_, ?_, ?_⟩
  · intro note hnote
    rcases List.mem_cons.mp hnote with rfl | hnote
    · exact ⟨.refl p, hd, hactive⟩
    · rcases List.mem_append.mp hnote with hnote | hnote
      · exact h.notes note hnote
      · obtain rfl := List.mem_singleton.mp hnote
        exact h.takes hextra
  · intro q o e hturn
    have hmem : .turn q o ∈ (body p).notes := by simpa [watchCall] using hturn
    exact h.broken q o e hmem
  · have := h.spent
    rw [hcalls]
    simp only [watchCall]
    omega
  · intro v hv
    have := h.spare v hv
    rw [hcalls]
    simp only [watchCall]
    omega

/-! ### Loops -/

theorem length_skip {p : Parser} {found : Placed} {rest : List Placed}
    (hp : p.tokens = found :: rest) : p.tokens.length = p.skip.tokens.length + 1 := by
  rw [skip, hp]
  rfl

section Loop

variable {level : Precedence} {operand : WatchedRule Number} {sofar : Watched Number}
  {lhs : Number} {op : Operator} {place : Placed} {extra more : Nat} {p : Parser}

theorem notes_bind_watchNext (hok : sofar.outcome.result = .ok lhs) {right : List Placed}
    (htokens : sofar.outcome.state.tokens = place :: right) :
    (sofar.bind (watchNext operand op place)).notes =
      sofar.notes ++ ((operand sofar.outcome.state.skip).notes ++
        [.turn sofar.outcome.state (operand sofar.outcome.state.skip).outcome]) := by
  have heat : sofar.outcome.state.eat place.token.kind =
      ⟨.ok (), sofar.outcome.state.skip, #[.eat place.token]⟩ := by
    unfold eat
    rw [htokens]
    simp
  rw [Watched.notes_bind_of_ok hok, watchNext, heat, Watched.notes_bind_of_ok rfl,
    Watched.notes_bind_of_silent fun _ _ => rfl]
  rfl

theorem state_bind_watchNext (hok : sofar.outcome.result = .ok lhs) {right : List Placed}
    (htokens : sofar.outcome.state.tokens = place :: right) :
    (sofar.bind (watchNext operand op place)).outcome.state =
      (operand sofar.outcome.state.skip).outcome.state := by
  rw [outcome_bind_watchNext]
  rcases hr : (erase operand sofar.outcome.state.skip).result with e | rhs
  · exact (bind_applyNext_of_error op hok htokens hr).2
  · exact (bind_applyNext_of_ok op hok htokens hr).2

theorem result_bind_watchNext_of_error (hok : sofar.outcome.result = .ok lhs)
    {right : List Placed} (htokens : sofar.outcome.state.tokens = place :: right) {e : Error}
    (he : (operand sofar.outcome.state.skip).outcome.result = .error e) :
    (sofar.bind (watchNext operand op place)).outcome.result = .error e := by
  have herase : (erase operand sofar.outcome.state.skip).result = .error e := he
  rw [outcome_bind_watchNext]
  exact (bind_applyNext_of_error op hok htokens herase).1

theorem exists_value_of_watchNext (hok : sofar.outcome.result = .ok lhs) {right : List Placed}
    (htokens : sofar.outcome.state.tokens = place :: right) {v : Number}
    (hv : (sofar.bind (watchNext operand op place)).outcome.result = .ok v) :
    ∃ rhs, (operand sofar.outcome.state.skip).outcome.result = .ok rhs := by
  rcases hr : (operand sofar.outcome.state.skip).outcome.result with e | rhs
  · rw [result_bind_watchNext_of_error hok htokens hr] at hv
    cases hv
  · exact ⟨rhs, rfl⟩

theorem calls_bind_watchNext (hok : sofar.outcome.result = .ok lhs) {right : List Placed}
    (htokens : sofar.outcome.state.tokens = place :: right) :
    (sofar.bind (watchNext operand op place)).calls =
      sofar.calls + (operand sofar.outcome.state.skip).calls := by
  unfold Watched.calls
  rw [notes_bind_watchNext hok htokens, List.countP_append, List.countP_append]
  rfl

/-- **A turn of a loop** takes the operator and its operand. -/
theorem sound_watchNext (h : Sound extra p sofar) (hok : sofar.outcome.result = .ok lhs)
    (hop : sofar.outcome.state.operator? level = some (op, place)) (hmore : more ≤ 2)
    (hr : Sound more sofar.outcome.state.skip (operand sofar.outcome.state.skip)) :
    Sound extra p (sofar.bind (watchNext operand op place)) := by
  obtain ⟨hhead, hplace, -⟩ := tokens_of_operator? hop
  obtain ⟨right, htokens⟩ := List.head?_eq_some_iff.1 hhead
  have hnotes : (sofar.bind (watchNext operand op place)).notes = _ :=
    notes_bind_watchNext hok htokens
  have hstate : (sofar.bind (watchNext operand op place)).outcome.state = _ :=
    state_bind_watchNext hok htokens
  have hbefore := length_skip htokens
  have hskip : Tallies p sofar.outcome.state.skip :=
    (h.tallies lhs hok).trans (tallies_operator htokens hplace)
  have hcalls : (sofar.bind (watchNext operand op place)).calls = _ :=
    calls_bind_watchNext hok htokens
  have hspare := h.spare lhs hok
  refine ⟨?_, ?_, ?_, ?_, ?_, ?_⟩
  · rw [hstate]
    exact (h.follows.trans (skip_follows _)).trans hr.follows
  · intro v hv
    obtain ⟨rhs, hrhs⟩ := exists_value_of_watchNext hok htokens hv
    rw [hstate]
    exact hskip.trans (hr.tallies rhs hrhs)
  · intro note hnote
    rw [hnotes, List.mem_append, List.mem_append, List.mem_singleton] at hnote
    rcases hnote with hnote | hnote | rfl
    · exact h.notes note hnote
    · exact (hr.notes note hnote).of_tallies hskip
    · refine ⟨?_, fun v hv => ?_⟩
      · have := hr.follows.tokens.length_le
        omega
      · have := hr.takes hmore v hv
        omega
  · intro q o e hturn ho
    have herror : (operand sofar.outcome.state.skip).outcome.result = .error e := by
      rw [hnotes, List.mem_append, List.mem_append, List.mem_singleton] at hturn
      rcases hturn with hturn | hturn | hturn
      · have := h.broken q o e hturn ho
        rw [hok] at this
        cases this
      · exact hr.broken q o e hturn ho
      · cases hturn
        exact ho
    exact result_bind_watchNext_of_error hok htokens herror
  · have := hr.spent
    rw [hcalls, hstate]
    omega
  · intro v hv
    obtain ⟨rhs, hrhs⟩ := exists_value_of_watchNext hok htokens hv
    have := hr.spare rhs hrhs
    rw [hcalls, hstate]
    omega

/-- **A loop** that may take as many turns as tokens are left, by induction on the turns. -/
theorem sound_watchFrom (hmore : more ≤ 2)
    (hoperand : ∀ q : Parser, q.depth = p.depth → Sound more q (operand q)) :
    ∀ (ahead : List Placed) {sofar : Watched Number}, Sound extra p sofar →
      sofar.outcome.state.tokens.length ≤ ahead.length →
        Sound extra p (watchFrom level operand ahead sofar) := by
  intro ahead
  induction ahead with
  | nil =>
    intro sofar h hlength
    have hnil := List.eq_nil_of_length_eq_zero (Nat.le_zero.1 hlength)
    rw [watchFrom_of_none (operator?_eq_none (by rw [hnil]; exact stops_nil _))]
    exact h
  | cons token ahead ih =>
    intro sofar h hlength
    rcases hr : sofar.outcome.result with e | lhs
    · rw [watchFrom_of_error hr]
      exact h
    rcases ho : sofar.outcome.state.operator? level with _ | ⟨op, place⟩
    · rw [watchFrom_of_none ho]
      exact h
    · have hskip := hoperand sofar.outcome.state.skip h.follows.depth
      obtain ⟨right, htokens⟩ := List.head?_eq_some_iff.1 (tokens_of_operator? ho).1
      have hbefore := length_skip htokens
      have hleft := hskip.follows.tokens.length_le
      rw [List.length_cons] at hlength
      rw [watchFrom_of_operator hr ho]
      refine ih (sound_watchNext h hr ho hmore hskip) ?_
      rw [state_bind_watchNext hr htokens]
      omega

theorem sound_watchChain (hmore : more ≤ 2)
    (hoperand : ∀ q : Parser, q.depth = p.depth → Sound more q (operand q)) :
    Sound more p (watchChain level operand p) :=
  sound_watchFrom hmore hoperand _ (hoperand p rfl) (Nat.le_refl _)

end Loop

/-! ### Terms and expressions -/

section Chains

variable {active : Nat} {p : Parser} {factor : WatchedRule Number}

theorem sound_watchTerm (hd : p.depth ≤ maxDepth) (hactive : active ≤ p.depth + 1)
    (hfactor : ∀ q : Parser, q.depth = p.depth → Sound 1 q (factor q)) :
    Sound 2 p (watchTerm active factor p) :=
  sound_watchCall (sound_watchChain (by decide) hfactor) (by decide) hd hactive .term

theorem sound_watchExpr (hd : p.depth ≤ maxDepth) (hactive : active ≤ p.depth + 1)
    (hfactor : ∀ q : Parser, q.depth = p.depth → Sound 1 q (factor q)) :
    Sound 3 p (watchExpr active factor p) := by
  refine sound_watchCall (sound_watchChain (by decide) fun q hq => ?_) (by decide) hd hactive .expr
  exact sound_watchTerm (by omega) (by omega) fun r hr => hfactor r (hr.trans hq)

end Chains

/-! ### Factors -/

theorem eat_cases (kind : Token.Kind) (p : Parser) :
    (∃ e, (p.eat kind).result = .error e ∧ (p.eat kind).state = p) ∨
      ∃ place rest, p.tokens = place :: rest ∧ place.token.kind = kind ∧
        (p.eat kind).result = .ok () ∧ (p.eat kind).state = { p with tokens := rest } := by
  rcases hp : p.tokens with _ | ⟨place, rest⟩
  · exact Or.inl ⟨.ended kind.text p.eof, by simp only [eat, hp, Outcome.fail, and_self]⟩
  · by_cases hk : place.token.kind = kind
    · refine Or.inr ⟨place, rest, rfl, hk, ?_⟩
      rw [eat_of_kind hp hk]
      exact ⟨rfl, rfl⟩
    · refine Or.inl ⟨.unexpected kind.text place, ?_⟩
      rw [eat_of_other hp hk]
      exact ⟨rfl, rfl⟩

section Group

variable {active : Nat} {inner : WatchedRule Number} {p : Parser} {found : Placed}
  {rest : List Placed}

theorem notes_watchGroup (hp : p.tokens = found :: rest) (hf : found.token = .openParen) :
    (watchGroup active inner p).notes = (watchExpr active inner (p.inside rest)).notes ++
      [.release (watchExpr active inner (p.inside rest)).outcome.state.depth] := by
  rw [watchGroup, eat_of_kind hp (by rw [hf]; rfl), Watched.notes_bind_of_ok rfl,
    Watched.notes_bind_of_silent fun _ _ => rfl]
  rfl

/-- A group fails where the expression inside or the closing parenthesis does, or takes both. -/
theorem factor_inside_cases (hp : p.tokens = found :: rest) (hf : found.token = .openParen)
    (hd : p.depth < maxDepth) :
    (∃ e, (factor p).result = .error e ∧
      (∀ e', (expr (p.inside rest)).result = .error e' → e' = e) ∧
        (factor p).state.tokens = (expr (p.inside rest)).state.tokens) ∨
    ∃ v place, (expr (p.inside rest)).result = .ok v ∧ place.token = .closeParen ∧
      (expr (p.inside rest)).state.tokens = place :: (factor p).state.tokens := by
  rcases hr : (expr (p.inside rest)).result with e | v
  · obtain ⟨hresult, hstate⟩ := factor_of_inner_error hp hf hd hr
    exact Or.inl ⟨e, hresult, fun e' h => (Except.error.inj h).symm, by rw [hstate]⟩
  · obtain ⟨hresult, hstate⟩ := factor_of_inner_ok hp hf hd hr rfl
    rcases eat_cases .closeParen { p with tokens := (expr (p.inside rest)).state.tokens } with
      ⟨e, he, hleft⟩ | ⟨place, left, htokens, hkind, -, hleft⟩
    · rw [he] at hresult
      exact Or.inl ⟨e, hresult, fun _ h => (nomatch h), by rw [hstate, hleft]⟩
    · refine Or.inr ⟨v, place, rfl, kind_eq_closeParen hkind, ?_⟩
      rw [hstate, hleft]
      exact htokens

theorem calls_watchGroup (hp : p.tokens = found :: rest) (hf : found.token = .openParen) :
    (watchGroup active inner p).calls = (watchExpr active inner (p.inside rest)).calls := by
  unfold Watched.calls
  rw [notes_watchGroup hp hf, List.countP_append]
  rfl

/-- The notes of the expression inside hold for the group, and the counter is above zero when its
parenthesis is released. -/
theorem holds_watchGroup (hp : p.tokens = found :: rest) (hf : found.token = .openParen)
    (hd : p.depth < maxDepth)
    (h : Sound 3 (p.inside rest) (watchExpr active inner (p.inside rest))) :
    ∀ note ∈ (watchGroup active inner p).notes, note.Holds p := by
  intro note hnote
  rw [notes_watchGroup hp hf, List.mem_append, List.mem_singleton] at hnote
  rcases hnote with hnote | rfl
  · exact (h.notes note hnote).of_tallies (tallies_inside hp hf)
  · have hdepth : (watchExpr active inner (p.inside rest)).outcome.state.depth = p.depth + 1 :=
      h.follows.depth
    rw [hdepth]
    exact ⟨Nat.succ_pos _, hd⟩

/-- **A group** opens one parenthesis, and closes it behind the expression inside. -/
theorem sound_watchGroup (hp : p.tokens = found :: rest) (hf : found.token = .openParen)
    (hd : p.depth < maxDepth) (hfactor : (watchGroup active inner p).outcome = factor p)
    (hexpr : (watchExpr active inner (p.inside rest)).outcome = expr (p.inside rest))
    (h : Sound 3 (p.inside rest) (watchExpr active inner (p.inside rest))) :
    Sound 0 p (watchGroup active inner p) := by
  have hfollows : Follows p (watchGroup active inner p).outcome.state := hfactor ▸ keeps_factor p
  have hholds := holds_watchGroup hp hf hd h
  have hlength : p.tokens.length = (p.inside rest).tokens.length + 1 := by rw [hp]; rfl
  have hcalls : (watchGroup active inner p).calls = _ := calls_watchGroup hp hf
  have hbroken : ∀ q o e, .turn q o ∈ (watchGroup active inner p).notes → o.result = .error e →
      (expr (p.inside rest)).result = .error e := by
    intro q o e hturn ho
    have hmem : .turn q o ∈ (watchExpr active inner (p.inside rest)).notes := by
      simpa [notes_watchGroup hp hf] using hturn
    rw [← hexpr]
    exact h.broken q o e hmem ho
  rcases factor_inside_cases hp hf hd with ⟨e, he, hsame, hleft⟩ | ⟨v, place, hv, hclose, hleft⟩
  · refine sound_of_error (by rw [hfactor]; exact he) hfollows hholds ?_ ?_
    · intro q o e' hturn ho
      rw [hfactor, hsame e' (hbroken q o e' hturn ho)]
      exact he
    · have hspent := h.spent
      rw [hexpr] at hspent
      rw [hfactor, hcalls, hleft]
      omega
  · have hlast : (expr (p.inside rest)).state.tokens.length =
        (factor p).state.tokens.length + 1 := by rw [hleft]; rfl
    have hinner : (watchExpr active inner (p.inside rest)).outcome.result = .ok v := by
      rw [hexpr]
      exact hv
    have hspare := h.spare v hinner
    have hbehind := h.tallies v hinner
    rw [hexpr] at hspare hbehind
    refine ⟨hfollows, ?_, hholds, ?_, ?_, ?_⟩
    · intro _ _
      have hdepth : (expr (p.inside rest)).state.depth = (factor p).state.depth + 1 := by
        rw [(keeps_expr _).depth, (keeps_factor p).depth]
        rfl
      rw [hfactor]
      exact ((tallies_inside hp hf).trans hbehind).trans (tallies_close hleft hclose hdepth)
    · intro q o e hturn ho
      rw [hbroken q o e hturn ho] at hv
      cases hv
    · rw [hfactor, hcalls]
      omega
    · intro _ _
      rw [hfactor, hcalls]
      omega

end Group

section Factor

variable {active : Nat} {inner : WatchedRule Number} {p : Parser}

theorem sound_fail (e : Error) (p : Parser) : Sound 0 p ⟨.fail e p, []⟩ := by
  refine sound_of_error rfl (.refl p) (fun _ hnote => (List.not_mem_nil hnote).elim)
    (fun _ _ _ hturn => (List.not_mem_nil hturn).elim) ?_
  change 0 + 3 * p.tokens.length ≤ 3 * p.tokens.length
  omega

theorem sound_number {found : Placed} {rest : List Placed} {value : Number}
    (hp : p.tokens = found :: rest) (hf : found.token = .number value) :
    Sound 0 p ⟨(p.eat (Token.number value).kind).map fun _ => value, []⟩ := by
  have hlength : p.tokens.length = rest.length + 1 := by rw [hp]; rfl
  rw [eat_of_kind hp (by rw [hf])]
  exact {
    follows := ⟨rfl, rfl, by rw [hp]; exact List.suffix_cons _ _⟩
    tallies := fun _ _ => tallies_number hp hf
    notes := fun _ hnote => (List.not_mem_nil hnote).elim
    broken := fun _ _ _ hturn => (List.not_mem_nil hturn).elim
    spent := by
      change 0 + 3 * rest.length ≤ 3 * p.tokens.length
      omega
    spare := fun _ _ => by
      change 0 + 3 * rest.length + 3 ≤ 3 * p.tokens.length
      omega }

theorem sound_watchFactorOf (hfactor : (watchFactorOf active inner p).outcome = factor p)
    (hinside : ∀ rest, p.depth < maxDepth →
      (watchExpr active inner (p.inside rest)).outcome = expr (p.inside rest) ∧
        Sound 3 (p.inside rest) (watchExpr active inner (p.inside rest))) :
    Sound 0 p (watchFactorOf active inner p) := by
  unfold watchFactorOf at hfactor ⊢
  rcases hp : p.tokens with _ | ⟨found, rest⟩
  · exact sound_fail _ p
  · simp only [hp] at hfactor ⊢
    rcases hf : found.token with value | op | _ | _
    case number => exact sound_number hp hf
    case openParen =>
      simp only [hf] at hfactor ⊢
      split
      · exact sound_fail _ p
      · next hdepth =>
        have hd := Nat.lt_of_not_le hdepth
        obtain ⟨hexpr, h⟩ := hinside rest hd
        rw [if_neg hdepth] at hfactor
        exact sound_watchGroup hp hf hd hfactor hexpr h
    all_goals exact sound_fail _ p

end Factor

/-- **The recursion.** Each factor inside another has one more parenthesis open, so the budget lasts
if it is larger than the number of parentheses which may still be opened. -/
theorem sound_watchFactor : ∀ {budget : Nat} {p : Parser}, p.depth ≤ maxDepth →
    maxDepth - p.depth < budget → Sound 1 p (watchFactor budget p.depth p)
  | budget + 1, p, hd, hbudget => by
    refine sound_watchCall (sound_watchFactorOf ?_ fun rest hlt => ?_) (by decide) hd (Nat.le_refl _)
      .factor
    · exact outcome_watchFactor hbudget p.depth
    · have hbudget' : maxDepth - (p.inside rest).depth < budget := by
        change maxDepth - (p.depth + 1) < budget
        omega
      refine ⟨outcome_watchExpr hbudget' (p.depth + 1), ?_⟩
      refine sound_watchExpr hlt (Nat.le_succ _) fun q hq => ?_
      replace hq : q.depth = p.depth + 1 := hq
      rw [← hq]
      exact sound_watchFactor (by omega) (by omega)

end Calculator.Parser
