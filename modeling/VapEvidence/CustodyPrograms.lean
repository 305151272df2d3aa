import VapEvidence.PaymentPrograms

set_option autoImplicit false

/-!
# Custody before dispatch

What the programs of a collected adapter establish before a payment is sent: the
collector holds the package and the journal holds a marked observation of it.
-/
namespace VapEvidence.Payment
open Json Authorization Custody Interleaving

section CustodyPrograms
variable {py : Platform} {mode : Mode} {i : ℕ}

theorem hexOrNull_wf (o : Option Bytes) : ((o.map fun raw => Json.str (hex raw)).getD .null).WF := by
  cases o <;> trivial

theorem responseValue_wf {a b c : Json} (ha : a.WF) (hb : b.WF) (hc : c.WF) :
    (dict [("readback_bytes", a), ("ack_bytes", b), ("package_bytes", c)]).WF := by
  refine dict_wf fun p hp => ?_
  simp only [List.mem_cons, List.not_mem_nil, or_false] at hp
  rcases hp with rfl | rfl | rfl
  · exact ha
  · exact hb
  · exact hc

theorem item_response (a b c : Json) :
    (dict [("readback_bytes", a), ("ack_bytes", b), ("package_bytes", c)]).item "package_bytes" = c :=
  item_of_get? (by simp [get?_dict])

theorem hexBytes_hex {maximum : ℕ} {raw raw' : Bytes} (h : hexBytes maximum (.str (hex raw)) = .ok raw') :
    raw' = raw := by
  unfold hexBytes at h
  dsimp only at h
  split_ifs at h
  rw [unhex_hex] at h
  cases h
  rfl

/-- A readback that verifies with an acknowledgment shows the package the collector holds. -/
theorem readback_present {config : CollectorConfig} {packageDigest nonce nonce' : String} {now : ℤ}
    {k : CollectorStore} {body package key : Bytes} {collectorId : String} {epoch : ℤ} {x : Readback}
    {ack : Bytes} (h : Custody.readback py config packageDigest nonce now k = .ok body)
    (hv : verifyReadback py body package key nonce' collectorId epoch = .ok x) (hx : x.ackBytes = some ack) :
    ∃ stored ∈ k.records.rows, stored.packageBytes = package := by
  obtain ⟨_, -, h⟩ := bind_ok h
  obtain ⟨_, -, h⟩ := bind_ok h
  obtain ⟨_, -, h⟩ := bind_ok h
  obtain ⟨signed, -, h⟩ := bind_ok h
  obtain ⟨value, -, hv⟩ := bind_ok hv
  obtain ⟨response, hresp, hv⟩ := bind_ok hv
  obtain ⟨_, -, hv⟩ := bind_ok hv
  obtain ⟨readbackBytes, -, hv⟩ := bind_ok hv
  obtain ⟨observed, -, hv⟩ := bind_ok hv
  obtain ⟨_, -, hv⟩ := bind_ok hv
  rw [check_ok] at h
  by_cases hm : observed.item "state" = .str "MISSING"
  · rw [if_pos hm] at hv
    obtain ⟨_, -, hv⟩ := bind_ok hv
    cases hv
    cases hx
  rw [if_neg hm] at hv
  obtain ⟨_, -, hv⟩ := bind_ok hv
  obtain ⟨ack', -, hv⟩ := bind_ok hv
  obtain ⟨original, horiginal, hv⟩ := bind_ok hv
  obtain ⟨_, hsame, hv⟩ := bind_ok hv
  have hsame := require_ok.1 hsame
  simp only [Bool.and_eq_true, decide_eq_true_eq] at hsame
  have hdec := loadJson_canonicalJson py collectorBounds
    (responseValue_wf (by trivial) (hexOrNull_wf _) (hexOrNull_wf _)) h
  obtain rfl := Except.ok.inj (hresp.symm.trans hdec)
  rw [item_response] at horiginal
  cases hrow : k.records.rows.find? fun row => row.packageDigest = packageDigest with
  | none =>
    rw [hrow] at horiginal
    cases horiginal
  | some row =>
    rw [hrow] at horiginal
    exact ⟨row, List.mem_of_find?_eq_some hrow, (hexBytes_hex horiginal).symm.trans hsame.1⟩

theorem verifyReadback_nonce {response package key : Bytes} {nonce collectorId : String} {epoch : ℤ}
    {x : Readback} (h : verifyReadback py response package key nonce collectorId epoch = .ok x) :
    x.nonce = nonce := by
  obtain ⟨value, -, h⟩ := bind_ok h
  obtain ⟨response, -, h⟩ := bind_ok h
  obtain ⟨_, -, h⟩ := bind_ok h
  obtain ⟨readbackBytes, -, h⟩ := bind_ok h
  obtain ⟨observed, -, h⟩ := bind_ok h
  obtain ⟨_, -, h⟩ := bind_ok h
  by_cases hm : observed.item "state" = .str "MISSING"
  · rw [if_pos hm] at h
    obtain ⟨_, -, h⟩ := bind_ok h
    cases h
    rfl
  · rw [if_neg hm] at h
    obtain ⟨_, -, h⟩ := bind_ok h
    obtain ⟨_, -, h⟩ := bind_ok h
    obtain ⟨_, -, h⟩ := bind_ok h
    obtain ⟨_, -, h⟩ := bind_ok h
    obtain ⟨_, -, h⟩ := bind_ok h
    cases h
    rfl

theorem readAuthorization_found {g : AuthorizedAdapter} {r : Request py} {j : Journal} {record : Bytes}
    (hs : (readAuthorization g r j).status = .found)
    (hr : (readAuthorization g r j).recordBytes = some record) :
    ∃ proof ∈ j.proofs.rows, proof.requestDigest = r.digest ∧ proof.recordBytes = record := by
  unfold readAuthorization at hs hr
  split at hs
  · cases hs
  · cases hs
  · next claim hclaim =>
    rw [hclaim] at hr
    dsimp only at hr
    split at hs
    · cases hs
    · next proof hproof =>
      rw [hproof] at hr
      dsimp only at hr
      refine ⟨proof, List.mem_of_find?_eq_some hproof, by simpa using List.find?_some hproof, ?_⟩
      unfold readingOf at hr
      dsimp only at hr
      split at hr
      · cases hr
      · split at hr
        · cases hr
        · split_ifs at hr
          cases hr
          rfl

theorem runs_collectAndCheck (pins : Pins) (package : Bytes) (s : Services) :
    Runs py mode i (collectAndCheck pins package) (fun x t => ∀ observed, x = .ok observed →
      Checked py pins package observed ∧
        ∃ stored ∈ t.collector.records.rows, stored.packageBytes = package) s := by
  unfold collectAndCheck
  split
  · exact fun _ h => by cases h
  · refine wp_andThen _ _ (runs_quiet_ret (by trivial) fun _ t res _ _ _ _ _ _ => ?_)
    rcases res with e | ⟨code, ack⟩
    · exact fun _ h => by cases h
    · dsimp only
      split_ifs
      · exact fun _ h => by cases h
      · split
        · exact fun _ h => by cases h
        · refine runs_quiet (by trivial) fun _ t nonce _ _ _ _ _ _ => ?_
          refine wp_andThen _ _ (runs_quiet_ret (by trivial) fun s₁ t res _ _ hx _ _ _ => ?_)
          rcases res with e | ⟨code, response⟩
          · exact fun _ h => by cases h
          · dsimp only
            split_ifs with hcode
            · exact fun _ h => by cases h
            · split
              · exact fun _ h => by cases h
              · next observation hobs =>
                split_ifs with hack
                · intro observed h
                  cases h
                  obtain ⟨rb, ack', n⟩ := observation
                  obtain rfl : ack' = some ack := hack
                  obtain ⟨rfl, ⟨_, he⟩ | ⟨_, _, hne, he⟩ | ⟨config, _, now, body, hread, he⟩⟩ := hx
                  · cases he
                  · cases he
                    exact absurd (not_not.1 hcode) hne
                  · cases he
                    obtain ⟨stored, hs, hp⟩ := readback_present hread hobs rfl
                    have hn : n = nonce := verifyReadback_nonce hobs
                    exact ⟨⟨response, hn ▸ hobs⟩, stored, hs, hp⟩
                · exact fun _ h => by cases h

theorem reads_collectAndCheck (pins : Pins) (package : Bytes) :
    (collectAndCheck pins package : Program py _).Uses ReadOnly := by
  unfold collectAndCheck
  split
  · trivial
  · refine Prog.Uses.andThen ⟨trivial, fun _ => trivial⟩ fun ⟨code, ack⟩ => ?_
    dsimp only
    split_ifs
    · trivial
    · split
      · trivial
      · refine ⟨trivial, fun nonce => Prog.Uses.andThen ⟨trivial, fun _ => trivial⟩ fun ⟨code, response⟩ => ?_⟩
        dsimp only
        split_ifs
        · trivial
        · split
          · trivial
          · split_ifs <;> trivial

theorem uses_collectAndCheck (pins : Pins) (package : Bytes) :
    (collectAndCheck pins package : Program py _).Uses Quiet :=
  (reads_collectAndCheck pins package).mono fun _ => ReadOnly.quiet

theorem uses_collectAndPersist (c : CollectedAdapter) (r : Request py) (package : Bytes) (stage : String) :
    (collectAndPersist c r package stage).Uses Quiet := by
  unfold collectAndPersist
  split
  · trivial
  · refine (uses_collectAndCheck _ _).andThen fun observed => ?_
    refine (uses_faultPoint _ _).andThen fun _ => ?_
    exact Prog.Uses.andThen ⟨trivial, fun _ => trivial⟩ fun _ => uses_faultPoint _ _

theorem deposited_of_persist {c : CollectedAdapter} {r : Request py} {package : Bytes} {observed : Collected}
    {stored : CollectionRecord} {s t : Services} (hc : Checked py c.pins package observed)
    (hm : stored ∈ s.collector.records.rows) (hp : stored.packageBytes = package)
    (hx : exec i s (.persist c r package observed "PRE_DISPATCH") t (.ok ())) :
    Nonempty (Deposited py t c package) := by
  obtain ⟨now, j, hends, rfl⟩ := hx
  rcases ends_cases hends with ⟨-, hno⟩ | ⟨⟨⟩, htx, -⟩
  · exact absurd rfl (hno ())
  obtain ⟨j', hpersist, he⟩ := map_ok htx
  obtain rfl : j' = j := congrArg Prod.snd he
  obtain ⟨value, pinDigest, record, hvalid, -, hpin, hrec, ho, hpre, -, -⟩ := persist_ok hpersist
  exact ⟨⟨value, pinDigest, observed, now, record, stored, hvalid, hc, hpin, hrec, hm, hp,
    ho ▸ List.mem_append_right _ List.mem_cons_self,
    (hpre rfl).2 ▸ List.mem_append_right _ List.mem_cons_self⟩⟩

theorem runs_collectAndPersist (c : CollectedAdapter) (r : Request py) (package : Bytes) (s : Services) :
    Runs py mode i (collectAndPersist c r package "PRE_DISPATCH")
      (fun x t => x = .ok () → Nonempty (Deposited py t c package)) s := by
  unfold collectAndPersist
  split
  · exact fun h => by cases h
  refine wp_andThen _ _ (runs_mono (runs_collectAndCheck c.pins package s) fun x t hx => ?_)
  rcases x with e | observed
  · exact fun h => by cases h
  obtain ⟨hchecked, stored, hm, hp⟩ := hx observed rfl
  refine wp_andThen _ _ (runs_mono (runs_uses (uses_faultPoint _ _) t) fun x u hu => ?_)
  rcases x with e | ⟨⟩
  · exact fun h => by cases h
  refine wp_andThen _ _ (runs_quiet_ret (by trivial) fun s₁ t₁ res hg _ hx _ _ _ => ?_)
  rcases res with e | ⟨⟩
  · exact fun h => by cases h
  obtain ⟨d⟩ := deposited_of_persist hchecked (hg.records (hu.1.records hm)) hp hx
  exact runs_mono (runs_uses (uses_faultPoint _ _) t₁) fun _ _ h _ => ⟨d.grows h.1⟩

theorem uses_packaged {r : Request py} {kind : Kind} {evidence : Bytes}
    {body : Bytes → Program py (Except Failure Unit)} (h : ∀ package, (body package).Uses Quiet) :
    (packaged r kind evidence body).Uses Quiet := by
  unfold packaged
  split
  · exact h _
  · trivial

theorem uses_beforeDispatch (c : CollectedAdapter) (r : Request py) : (beforeDispatch c r).Uses Quiet := by
  refine ⟨trivial, fun proof => ?_⟩
  dsimp only [Prog.bind]
  split
  · split_ifs
    · exact uses_packaged fun package => uses_collectAndPersist c r package _
    · trivial
  · trivial

theorem uses_afterReceipt (c : CollectedAdapter) (r : Request py) (receipt : Bytes) :
    (afterReceipt c r receipt).Uses Quiet := by
  unfold afterReceipt
  split
  · trivial
  · exact uses_packaged fun package => uses_collectAndPersist c r package _

/-- The prerequisite of a submission that succeeds leaves the request in custody. -/
theorem runs_beforeDispatch {c : CollectedAdapter} {r : Request py} {s : Services} (hc : c ∈ s.collected)
    (hs : checkScope r.json c.authorized.adapter.context = .ok ()) :
    Runs py mode i (beforeDispatch c r) (fun x t => x = .ok () → Nonempty (Custodied py t r.raw)) s := by
  refine runs_quiet (by trivial) fun s₁ t proof _ _ hx hg _ _ => ?_
  obtain ⟨rfl, hproof⟩ := hx
  split
  · next record hfound hrecord =>
    split_ifs
    · unfold packaged
      split
      · next package hmade =>
        refine runs_mono (runs_grows (runs_collectAndPersist c r package t)) fun x u ⟨hd, hu⟩ hx => ?_
        obtain ⟨d⟩ := hd hx
        rcases hproof with rfl | rfl
        · obtain ⟨proof, hm, hdig, rfl⟩ := readAuthorization_found hfound hrecord
          exact ⟨⟨c, r, proof, package, hu.collected (hg.collected hc), rfl, hs, hu.proofs hm, hdig, hmade, d⟩⟩
        · cases hfound
      · exact fun h => by cases h
    · exact fun h => by cases h
  · exact fun h => by cases h

end CustodyPrograms
end VapEvidence.Payment
