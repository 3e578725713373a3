import Chronicle.Session.Searching
import Chronicle.Session.Streaming

/-!
# What searching and streaming leave alone

Going to a hit and giving a query move the window and the search, and a subscription or a request to stop
the hero is granted or not.  What else there is to a session stays, and that is read off these few cases
and not off the code again.
-/

namespace Chronicle.Session

/-! ## Searching -/

theorem jumpTo_frame (s : Session) (index : Nat) :
    ∃ search viewport, s.jumpTo index = { s with search, viewport } := by
  rw [jumpTo]
  split
  · exact ⟨s.search, s.viewport, rfl⟩
  · exact ⟨_, _, rfl⟩

theorem jumpToOption_frame (s : Session) (index : Option Nat) :
    ∃ search viewport, (s.jumpToOption index).2 = { s with search, viewport } := by
  cases index with
  | none => exact ⟨s.search, s.viewport, rfl⟩
  | some index => exact jumpTo_frame s index

theorem setQuery_frame (s : Session) (query : String) :
    ∃ search viewport, s.setQuery query = { s with search, viewport } := by
  rw [setQuery]
  generalize Search.look s.store query = search
  simp only
  split
  · exact ⟨search, s.viewport, rfl⟩
  · next last _ =>
      obtain ⟨search', viewport, same⟩ := jumpTo_frame { s with search } last
      exact ⟨search', viewport, same⟩

/-! ## Streaming -/

/-- A subscription takes a token and nothing else. -/
theorem subscribe_cases (s : Session) (id : CorrelationId) :
    (s.subscribe id).2 = s ∨ ∃ k, (s.subscribe id).2 = { s with tokens := (s.tokens.obtain k).2 } := by
  rw [subscribe]
  split
  · exact .inl rfl
  · next k known =>
      split
      · split
        · exact .inr ⟨k, rfl⟩
        · exact .inl rfl
      · exact .inl rfl

/-- A hero that is a tool is asked to stop, and its token, if it has one, is cancelled. -/
theorem stopHero_cases (s : Session) :
    s.stopHero = (false, s) ∨
    ∃ tokens id, (tokens = s.tokens ∨ ∃ token, tokens = s.tokens.cancel token) ∧
      s.stopHero = (true, { s with tokens, outbound := s.outbound ++ [.stopTool id] }) := by
  rw [stopHero]
  split
  · exact .inl rfl
  · next k _ _ =>
      split
      · exact .inl rfl
      · next e _ =>
          split
          · refine .inr ⟨_, e.id, ?_, rfl⟩
            cases s.tokens.get? k with
            | none => exact .inl rfl
            | some token => exact .inr ⟨token, rfl⟩
          · exact .inl rfl

end Chronicle.Session
