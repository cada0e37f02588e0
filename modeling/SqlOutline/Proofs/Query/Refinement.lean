import SqlOutline.Proofs.Piece.Parse
import SqlOutline.Proofs.Query.Calls

/-!
# Stored results do not show

A query answers every series of calls as the machine that stores no results does, and the same can be read
from it after every call.

* `Query.Coherent` : what is stored is what would be computed anew;
* `Query.forget` : the state of the other machine, without the stored results;
* `Coherent.perform_cases` : a coherent query and what is left of it fail alike or answer alike, and the
  query stays coherent.  This rests on `set_cases` and `Coherent.elements_cases`;
* `run_eq_uncached` : the whole series of calls.
-/

namespace SqlOutline

/-! ### Elements of a statement -/

/-- The elements of a text are those of its first statement. -/
theorem exists_statement {sql : String} {es : List Element} (h : parseElements sql = .ok es) :
    ∃ s rest, Statement.parse sql = .ok (s :: rest) ∧ es = Element.ofPieces s.pieces := by
  unfold parseElements Statement.parseFirst at h
  cases hp : Statement.parse sql with
  | error e =>
    rw [hp] at h
    cases h
  | ok statements =>
    rw [hp] at h
    cases statements with
    | nil => cases h
    | cons s rest => exact ⟨s, rest, rfl, (Except.ok.inj h).symm⟩

/-- The elements that a text has are never none: there is always a node for them. -/
theorem exportElements_of_parse {sql : String} {es : List Element} (h : parseElements sql = .ok es) :
    exportElements es = .ok (Node.ofElements es) := by
  obtain ⟨s, rest, hp, rfl⟩ := exists_statement h
  have hne := Statement.pieces_ne_nil_of_parse hp List.mem_cons_self
  cases hpieces : s.pieces with
  | nil => exact absurd hpieces hne
  | cons p ps => rfl

namespace Query

/-! ### The invariant -/

/-- The normalized text and the elements are those that would be computed anew. -/
structure Coherent (q : Query) : Prop where
  normalized : ∀ s, q.normalized = some s → normalize q.raw = .ok s
  cached : ∀ es, q.cache = some es → parseElements q.source = .ok es
  unset : q.raw = "" → q.normalized = none

/-- The text, its mode and the number of times that the elements were dropped. -/
def forget (q : Query) : Uncached where
  setting := if q.raw = "" then none else some (q.raw, q.normalized.isSome)
  clears := q.generation

variable {q q' : Query}

theorem coherent_new : Coherent {} where
  normalized s h := by cases h
  cached es h := by cases h
  unset _ := rfl

theorem forget_new : forget {} = {} := by simp [forget]

theorem Coherent.forget_source (h : q.Coherent) :
    q.forget.source = if q.raw = "" then .error .notSet else .ok q.source := by
  unfold forget Uncached.source
  by_cases hraw : q.raw = ""
  · simp [hraw]
  · cases hn : q.normalized with
    | none => simp [hraw, source, hn]
    | some s => simp [hraw, source, hn, h.normalized s hn]

theorem Coherent.forget_view (h : q.Coherent) : q.forget.view = q.view := by
  unfold forget Uncached.view view
  by_cases hraw : q.raw = ""
  · simp [hraw, h.unset hraw]
  · cases hn : q.normalized with
    | none => simp [hraw]
    | some s => simp [hraw, h.normalized s hn, Except.toOption]

/-! ### Setting and dropping -/

/-- A text can be set on both machines or on neither, and what is stored with it is computed from it. -/
theorem set_cases (q : Query) (text : String) (normalizing : Bool) :
    (∃ e, q.set text normalizing = .error e ∧ Uncached.check text normalizing = .error e) ∨
      ∃ q' : Query, q'.Coherent ∧ q.set text normalizing = .ok q' ∧
        Uncached.check text normalizing = .ok () ∧
        q'.forget = { q.forget with setting := some (text, normalizing) } := by
  unfold set Uncached.check
  by_cases htext : text = ""
  · exact .inl ⟨.emptyText, by simp [htext], by simp [htext]⟩
  · cases normalizing with
    | true =>
      cases hs : normalize text with
      | error e => exact .inl ⟨e, by simp [htext, bind, Except.bind], by simp [htext, Except.map]⟩
      | ok s =>
        refine .inr ⟨{ q with raw := text, normalized := some s, cache := none }, ⟨?_, ?_, ?_⟩, ?_, ?_, ?_⟩
        · simp [hs]
        · simp
        · simp [htext]
        · simp [htext, bind, Except.bind, pure, Except.pure]
        · simp [htext, Except.map]
        · simp [htext, forget]
    | false =>
      cases hes : parseElements text with
      | error e => exact .inl ⟨e, by simp [htext, bind, Except.bind], by simp [htext, Except.map]⟩
      | ok es =>
        refine .inr ⟨{ q with raw := text, normalized := none, cache := some es }, ⟨?_, ?_, ?_⟩, ?_, ?_, ?_⟩
        · simp
        · simp [source, hes]
        · simp
        · simp [htext, bind, Except.bind, pure, Except.pure]
        · simp [htext, Except.map]
        · simp [htext, forget]

theorem Coherent.clear (h : q.Coherent) : q.clear.Coherent where
  normalized := h.normalized
  cached es hes := by cases hes
  unset := h.unset

/-! ### Computing from the text -/

/-- The query that has stored some elements. -/
def storing (q : Query) (es : List Element) : Query := { q with cache := some es }

theorem Coherent.storing {es : List Element} (h : q.Coherent) (hes : parseElements q.source = .ok es) :
    (q.storing es).Coherent where
  normalized := h.normalized
  cached es' hes' := by
    obtain rfl : es = es' := Option.some.inj hes'
    exact hes
  unset := h.unset

/-- Whether the elements were stored before makes no difference to what a call gets. -/
theorem Coherent.elements_cases (h : q.Coherent) :
    (∃ e, q.elements = .error e ∧ q.forget.parsed = .error e) ∨
      ∃ es, parseElements q.source = .ok es ∧ q.elements = .ok (es, q.storing es) ∧
        q.forget.parsed = .ok (q.source, es) := by
  unfold elements Uncached.parsed
  rw [h.forget_source]
  by_cases hraw : q.raw = ""
  · exact .inl ⟨.notSet, by simp [hraw], by simp [hraw, bind, Except.bind]⟩
  · cases hc : q.cache with
    | some es =>
      have hes := h.cached es hc
      have hq : q.storing es = q := by rw [Query.storing, ← hc]
      exact .inr ⟨es, hes, by simp [hraw, hq], by simp [hraw, hes, bind, Except.bind, pure, Except.pure]⟩
    | none =>
      cases hes : parseElements q.source with
      | error e =>
        exact .inl ⟨e, by simp [hraw, bind, Except.bind], by simp [hraw, hes, bind, Except.bind]⟩
      | ok es =>
        refine .inr ⟨es, rfl, ?_, by simp [hraw, hes, bind, Except.bind, pure, Except.pure]⟩
        simp [hraw, bind, Except.bind, pure, Except.pure, Query.storing]

/-! ### Calls -/

/-- A coherent query and what is left of it fail alike or answer alike; the query stays coherent. -/
theorem Coherent.perform_cases (h : q.Coherent) (c : Call) :
    (∃ e, q.perform c = .error e ∧ q.forget.perform c = .error e) ∨
      ∃ (reply : Reply) (q' : Query), q'.Coherent ∧ q.perform c = .ok (reply, q') ∧
        q.forget.perform c = .ok (reply, q'.forget) := by
  cases c with
  | set text normalizing =>
    obtain ⟨e, hset, hcheck⟩ | ⟨q', hq', hset, hcheck, hforget⟩ := q.set_cases text normalizing
    · exact .inl ⟨e, by rw [perform, hset]; rfl, by rw [Uncached.perform, hcheck]; rfl⟩
    · refine .inr ⟨.done, q', hq', by rw [perform, hset]; rfl, ?_⟩
      rw [Uncached.perform, hcheck, hforget]
      rfl
  | clear => exact .inr ⟨.done, q.clear, h.clear, rfl, rfl⟩
  | elements =>
    obtain ⟨e, he, hp⟩ | ⟨es, hes, he, hp⟩ := h.elements_cases
    · exact .inl ⟨e, by rw [perform, he]; rfl, by rw [Uncached.perform, hp]; rfl⟩
    · refine .inr ⟨.elements es, q.storing es, h.storing hes, by rw [perform, he]; rfl, ?_⟩
      rw [Uncached.perform, hp]
      rfl
  | texts =>
    obtain ⟨e, he, hp⟩ | ⟨es, hes, he, hp⟩ := h.elements_cases
    · exact .inl ⟨e, by rw [perform, texts, he]; rfl, by rw [Uncached.perform, hp]; rfl⟩
    · refine .inr ⟨.texts (Element.textsOf es), q.storing es, h.storing hes,
        by rw [perform, texts, he]; rfl, ?_⟩
      rw [Uncached.perform, hp]
      rfl
  | node =>
    obtain ⟨e, he, hp⟩ | ⟨es, hes, he, hp⟩ := h.elements_cases
    · exact .inl ⟨e, by rw [perform, node, he]; rfl, by rw [Uncached.perform, hp]; rfl⟩
    · refine .inr ⟨.node (.root q.source (Node.ofElements es)), q.storing es, h.storing hes, ?_, ?_⟩
      · -- the elements come from a text, so there are nodes for them
        rw [perform, node, he]
        show ((exportElements es >>= _).map _ : Except QueryError (Reply × Query)) = _
        rw [exportElements_of_parse hes]
        rfl
      · rw [Uncached.perform, hp]
        rfl
  | outline =>
    obtain ⟨e, he, hp⟩ | ⟨es, hes, he, hp⟩ := h.elements_cases
    · exact .inl ⟨e, by rw [perform, outline, he]; rfl, by rw [Uncached.perform, hp]; rfl⟩
    · refine .inr ⟨.outline q.source (Outline.ofElements es), q.storing es, h.storing hes,
        by rw [perform, outline, he]; rfl, ?_⟩
      rw [Uncached.perform, hp]
      rfl

theorem Coherent.step (h : q.Coherent) (c : Call) : (q.step c).2.Coherent := by
  obtain ⟨e, hperform, -⟩ | ⟨reply, q', hq', hperform, -⟩ := h.perform_cases c
  · rw [Query.step, hperform]
    exact h
  · rw [Query.step, hperform]
    exact hq'

theorem Coherent.step_forget (h : q.Coherent) (c : Call) :
    q.forget.step c = ((q.step c).1, (q.step c).2.forget) := by
  unfold Query.step Uncached.step
  obtain ⟨e, hperform, hforget⟩ | ⟨reply, q', -, hperform, hforget⟩ := h.perform_cases c
  · rw [hperform, hforget]
    rfl
  · rw [hperform, hforget]
    rfl

/-! ### Series of calls -/

theorem Coherent.run_forget (h : q.Coherent) (calls : List Call) : q.run calls = q.forget.run calls := by
  induction calls generalizing q with
  | nil => rfl
  | cons c calls ih =>
    have hnext : (q.step c).2.Coherent := h.step c
    rw [run, Uncached.run, h.step_forget c]
    show _ = ((q.step c).1, (q.step c).2.forget.view) :: (q.step c).2.forget.run calls
    rw [hnext.forget_view, ih hnext]

/-- **Stored results do not show.**  Whatever is called on a new query, in whatever order and with whatever
arguments, every call returns what the machine without stored results returns, failures included, and the
same text, normalized text and generation can be read after it. -/
theorem run_eq_uncached (calls : List Call) : run {} calls = Uncached.run {} calls := by
  rw [coherent_new.run_forget calls, forget_new]

end Query

end SqlOutline
