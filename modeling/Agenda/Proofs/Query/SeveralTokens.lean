import Agenda.Proofs.Query.NameResolution

/-!
# Lists over several tokens

Columns, sort keys, metrics and relations add up: what a token lists stands behind what earlier tokens
of the same key have listed. A list can therefore be cut anywhere and go on in a second token.

ONE FOLD IS TWO: a token takes over its values one after the other, and the second token goes on where
the first one has stopped. Only `cols:` does something before its first value, which is to say that
there are columns, and the values of the first token have left it nothing to say. A value that is
refused ends the compilation where it stands, with an error that knows neither its token nor its
neighbours.

Main results:
  * `Naming.foldlM_step_append` — the values of two lists, in any directives;
  * `Query.addToken_append` — two tokens do what one does, in any query;
  * `compile_several_tokens` — a list over two tokens compiles as in one.
-/

namespace Agenda

/-- The keys of the directives that take lists and may appear more than once. -/
def listKeys : List String :=
  ["cols", "sort", "metrics", "with"]

/-! ## §1. Values -/

namespace Naming

variable {n : Naming} {domain : Domain} {d d' : Directives} {value : String}

/-- Each of the keys belongs to a directive whose values are names, but not to that of groups. -/
theorem exists_of_mem_listKeys {key : String} (h : key ∈ listKeys) :
    ∃ n : Naming, n.key = key ∧ n ≠ .group := by
  simp only [listKeys, List.mem_cons, List.not_mem_nil, or_false] at h
  rcases h with h | h | h | h
  · exact ⟨.cols, h.symm, nofun⟩
  · exact ⟨.sort, h.symm, nofun⟩
  · exact ⟨.metrics, h.symm, nofun⟩
  · exact ⟨.relations, h.symm, nofun⟩

/-- Saying twice that there are columns is saying it once. -/
theorem start_start : n.start (n.start d) = n.start d := by
  cases n <;> rfl

/-- A value leaves nothing to be said before the next one. -/
theorem start_of_step (hd : n.start d = d) (h : n.step domain d value = .ok d') :
    n.start d' = d' := by
  cases n with
  | cols =>
    -- the column that has been added is one of the columns there are
    obtain ⟨_, hd'⟩ := Directives.addColumn_eq_ok.1 h
    rw [hd']
    rfl
  | _ => rfl

theorem start_of_foldlM {values : List String}
    (h : values.foldlM (n.step domain) (n.start d) = .ok d') : n.start d' = d' := by
  refine foldlM_preserves (P := fun d => n.start d = d) ?_ start_start h
  intro value _ d₁ d₂ hd₁ hstep
  exact start_of_step hd₁ hstep

/-- **The values of two lists** are those of the first and then, behind a second start, those of the
second. -/
theorem foldlM_step_append (front back : List String) :
    (front ++ back).foldlM (n.step domain) (n.start d) =
      front.foldlM (n.step domain) (n.start d) >>= fun d =>
        back.foldlM (n.step domain) (n.start d) := by
  rw [List.foldlM_append]
  cases h : front.foldlM (n.step domain) (n.start d) with
  | error e => rfl
  | ok d₁ =>
    show back.foldlM (n.step domain) d₁ = back.foldlM (n.step domain) (n.start d₁)
    rw [start_of_foldlM h]

end Naming

/-! ## §2. Tokens -/

/-- **Two tokens do what one does**, whatever the query holds. -/
theorem Query.addToken_append {key : String} (hkey : key ∈ listKeys) {t t₁ t₂ : Token}
    {front back : List String} (ht : t.kind = .directive key (front ++ back))
    (ht₁ : t₁.kind = .directive key front) (ht₂ : t₂.kind = .directive key back) (q : Query) :
    q.addToken t = q.addToken t₁ >>= fun q => q.addToken t₂ := by
  obtain ⟨n, hn, hgroup⟩ := Naming.exists_of_mem_listKeys hkey
  rw [← hn] at ht ht₁ ht₂
  have hadd : ∀ {u : Token} {values : List String} (q : Query), u.kind = .directive n.key values →
      q.addToken u = (values.foldlM (n.step q.domain) (n.start q.directives)).map
        ({ q with directives := · }) := by
    intro u values q hu
    rw [Query.addToken_directive hu, Naming.add_eq_foldlM hu fun h => absurd h hgroup]
  rw [hadd q ht, hadd q ht₁, Naming.foldlM_step_append]
  cases front.foldlM (n.step q.domain) (n.start q.directives) with
  | error e => rfl
  | ok d =>
    show _ = ({ q with directives := d } : Query).addToken t₂
    rw [hadd _ ht₂]
    rfl

/-! ## §3. Sequences of tokens -/

/-- **A LIST OVER TWO TOKENS COMPILES AS IN ONE**: where no saved query is asked for, a directive that
takes a list can be replaced by two of the same key, one behind the other, with the front and the back
of its list. What comes out is the same, the query as well as the error, wherever the directive stands
and however the tokens are written. -/
theorem compile_several_tokens {key : String} (hkey : key ∈ listKeys) {before after : List Token}
    {t t₁ t₂ : Token} {front back : List String} (ht : t.kind = .directive key (front ++ back))
    (ht₁ : t₁.kind = .directive key front) (ht₂ : t₂.kind = .directive key back)
    (hload : ∀ u ∈ before ++ after, u.isDirective "load" = false) :
    compile (before ++ t :: after) = compile (before ++ t₁ :: t₂ :: after) := by
  have hlist : ∀ {u : Token} {values : List String}, u.kind = .directive key values →
      u.isDirective "load" = false := by
    intro u values hu
    obtain ⟨n, hn, _⟩ := Naming.exists_of_mem_listKeys hkey
    rw [← hn] at hu
    exact Naming.isDirective_load hu
  have hbefore : ∀ u ∈ before, u.isDirective "load" = false := fun u hu =>
    hload u (List.mem_append_left after hu)
  have hafter : ∀ u ∈ after, u.isDirective "load" = false := fun u hu =>
    hload u (List.mem_append_right before hu)
  have hone : ∀ u ∈ t :: after, u.isDirective "load" = false :=
    List.forall_mem_cons.2 ⟨hlist ht, hafter⟩
  have htwo : ∀ u ∈ t₁ :: t₂ :: after, u.isDirective "load" = false :=
    List.forall_mem_cons.2 ⟨hlist ht₁, List.forall_mem_cons.2 ⟨hlist ht₂, hafter⟩⟩
  cases before with
  | nil =>
    -- there is no domain word in front of the directive
    rw [List.nil_append, List.nil_append, compile_cons hone, compile_cons htwo, ht, ht₁]
  | cons first before =>
    have hsame : ∀ domain, Query.ofTokens domain (before ++ t :: after) =
        Query.ofTokens domain (before ++ t₁ :: t₂ :: after) := by
      intro domain
      unfold Query.ofTokens
      simp only [List.foldlM_append, List.foldlM_cons, Query.addToken_append hkey ht ht₁ ht₂,
        bind_assoc]
    rw [List.cons_append, List.cons_append, compile_cons, compile_cons]
    · simp only [hsame]
    · exact List.forall_mem_append.2 ⟨hbefore, htwo⟩
    · exact List.forall_mem_append.2 ⟨hbefore, hone⟩

/-- Columns with a metric, a relation and a name that is listed twice, cut between the two mentions of
that name; and sort keys of which the second one is refused, cut behind it. -/
theorem compile_several_tokens_twice :
    let first : Token := ⟨.domain .task, "tasks", 0⟩
    let t : Token := ⟨.directive "cols" ["ID", "time_week", "id", "time"],
      "cols:ID,time_week,id,time", 6⟩
    let t₁ : Token := ⟨.directive "cols" ["ID", "time_week"], "cols:ID,time_week", 6⟩
    let t₂ : Token := ⟨.directive "cols" ["id", "time"], "Cols:id,time", 24⟩
    let u : Token := ⟨.directive "sort" ["due-", "minutes", "bogus"], "sort:due-,minutes,bogus", 6⟩
    let u₁ : Token := ⟨.directive "sort" ["due-", "minutes"], "sort:due-,minutes", 6⟩
    let u₂ : Token := ⟨.directive "sort" ["bogus"], "sort:bogus", 24⟩
    let overdue : Token := ⟨.overdue, "overdue", 37⟩
    ("cols" ∈ listKeys ∧ "sort" ∈ listKeys ∧
      ∀ v ∈ [first] ++ [overdue], v.isDirective "load" = false) ∧
    compile [first, t, overdue] = compile [first, t₁, t₂, overdue] ∧
    compile [first, t, overdue] = .ok (.ready
      { domain := .task
        filters := [.overdue]
        directives := {
          columns := some ["id", "time_week", "time"]
          metrics := .ofList ["time_week"]
          relations := .ofList ["time"] } }) ∧
    compile [first, u, overdue] = compile [first, u₁, u₂, overdue] ∧
    compile [first, u, overdue] = .error (.domainMismatch "minutes" .task [.timeLog]) := by
  intro first t t₁ t₂ u u₁ u₂ overdue
  have hkeys : "cols" ∈ listKeys ∧ "sort" ∈ listKeys := by decide
  have hload : ∀ v ∈ [first] ++ [overdue], v.isDirective "load" = false := by decide
  have hcols : t.kind = .directive "cols" (["ID", "time_week"] ++ ["id", "time"]) := rfl
  have hsort : u.kind = .directive "sort" (["due-", "minutes"] ++ ["bogus"]) := rfl
  have hcolumns : compile ([first] ++ t :: [overdue]) = compile ([first] ++ t₁ :: t₂ :: [overdue]) :=
    compile_several_tokens hkeys.1 hcols rfl rfl hload
  have hrefused : compile ([first] ++ u :: [overdue]) = compile ([first] ++ u₁ :: u₂ :: [overdue]) :=
    compile_several_tokens hkeys.2 hsort rfl rfl hload
  exact ⟨⟨hkeys.1, hkeys.2, hload⟩, hcolumns, by decide +kernel, hrefused, by decide +kernel⟩

end Agenda
