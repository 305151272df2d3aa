import VapEvidence.PublicationCalls

set_option autoImplicit false

/-!
# What a decision establishes

A check that authorizes has measured the bytes of its candidate against the rendering of
the verified session, and found the reviewer's signed release bound to them.
-/
namespace VapEvidence.Publication
open Json Incident Interleaving

section Values
variable {pk : Packages}

theorem decodeJson_loads {n : ℕ} {raw : Bytes} {v : Json} (h : Incident.decodeJson pk (floatHooks pk) n raw = .ok v) :
    ∃ s raw', decodeUtf8 raw = some s ∧ loads (floatHooks pk) s = .ok v ∧ canonical pk v = .ok raw' := by
  unfold Incident.decodeJson at h
  obtain ⟨_, -, h⟩ := bind_ok h
  split at h
  · cases h
  · next s hs =>
    split at h
    · cases h
    · next value hloads =>
      split at h
      · cases h
      · next raw' hcanonical =>
        cases h
        exact ⟨s, raw', hs, hloads, hcanonical⟩

/-- Owning a value that is owned changes nothing. -/
theorem owned_owned (hpk : Canonicalizes pk) {v w w' : Json} (h : owned pk v = .ok w) (h' : owned pk w = .ok w') :
    w' = w := by
  unfold owned at h h'
  obtain ⟨raw, hraw, h⟩ := bind_ok h
  obtain ⟨raw', hraw', h'⟩ := bind_ok h'
  obtain ⟨s, -, hs, hloads, -⟩ := decodeJson_loads h
  obtain ⟨s', -, hs', hloads', -⟩ := decodeJson_loads h'
  obtain rfl := hpk v raw s w raw' (canonical_rfc8785 hraw) hs hloads (canonical_rfc8785 hraw')
  rw [hs] at hs'
  cases hs'
  rw [hloads] at hloads'
  exact (Except.ok.inj hloads').symm

theorem ownInputs_ok {candidate trust approval : Json} {inputs : Json × Json × Json}
    (h : ownInputs pk candidate trust approval = .ok inputs) :
    owned pk candidate = .ok inputs.1 ∧ owned pk approval = .ok inputs.2.2 := by
  unfold ownInputs at h
  obtain ⟨c, hc, h⟩ := bind_ok h
  obtain ⟨t, -, h⟩ := bind_ok h
  obtain ⟨a, ha, h⟩ := bind_ok h
  cases h
  exact ⟨hc, ha⟩

theorem expect_str {v : Json} {s message : String} {u : Unit} (h : expect v (.str s) message = .ok u) : v = .str s :=
  pyEq_str (Incident.require_ok h)

theorem stringItems_some {value : Json} {items : List String} (h : stringItems value = some items) :
    value = .arr (items.map .str) := by
  cases value with
  | arr xs =>
    change xs.mapM _ = some items at h
    rw [show xs = items.map Json.str from ?_]
    induction xs generalizing items with
    | nil =>
      cases h
      rfl
    | cons x xs ih =>
      cases x with
      | str s =>
        simp only [List.mapM_cons, Option.pure_def, Option.bind_eq_bind, Option.bind_some] at h
        obtain ⟨rest, hrest, h⟩ := Option.bind_eq_some_iff.1 h
        obtain rfl := Option.some.inj h
        rw [ih hrest, List.map_cons]
      | _ => cases h
  | _ => cases h

end Values

/-! ## Measurements -/

section Measurements
variable {pk : Packages} {assess : Json → Json → Run Json} {config : GateConfig}

/-- What a measurement has found, whatever the time of the check. -/
structure Measures (pk : Packages) (config : GateConfig) (candidate approval : Json) (m : Measured) : Prop where
  candidate : owned pk candidate = .ok m.candidate
  approval : owned pk approval = .ok m.approval
  package : m.package = m.candidate.item "evidence"
  verified : ∃ collector, sub config.keys config.collectorKeyId = .ok collector ∧
    verifySnapshot pk (m.candidate.item "source") (textOf (collector.item "public_key")) config.collectorKeyId = .ok m.view
  notice : disclosureText (m.candidate.item "disclosure") = .ok m.notice
  html : checkHtml pk m.view m.candidate = .ok m.html
  subject : ∃ target requestId, sub m.package "target" = .ok target ∧
    (sub target "subject" >>= fun s => sub s "request_id") = .ok requestId ∧
      m.subject = subjectOf pk config requestId m.view m.html m.notice
  measurements : measurementsOf pk config m.subject m.candidate m.view m.html = .ok m.measurements

theorem measure_ok {candidate trust approval at_ : Json} {m : Measured}
    (h : measure pk assess config candidate trust approval at_ = .ok m) : Measures pk config candidate approval m := by
  unfold measure at h
  obtain ⟨candidate', hcandidate, h⟩ := bind_ok h
  obtain ⟨trust', -, h⟩ := bind_ok h
  obtain ⟨approval', happroval, h⟩ := bind_ok h
  -- the checks of the time, the format, the trust, the target's authorities and the preparation
  iterate 17 obtain ⟨_, -, h⟩ := bind_ok h
  obtain ⟨collector, hcollector, h⟩ := bind_ok h
  obtain ⟨key, hkey, h⟩ := bind_ok h
  obtain ⟨view, hview, h⟩ := bind_ok h
  -- the validity of the collector's key
  iterate 8 obtain ⟨_, -, h⟩ := bind_ok h
  obtain ⟨notice, hnotice, h⟩ := bind_ok h
  obtain ⟨html, hhtml, h⟩ := bind_ok h
  obtain ⟨target, htarget, h⟩ := bind_ok h
  obtain ⟨subject, hsubject, h⟩ := bind_ok h
  obtain ⟨requestId, hrequestId, h⟩ := bind_ok h
  iterate 2 obtain ⟨_, -, h⟩ := bind_ok h
  obtain ⟨measurements, hmeasurements, h⟩ := bind_ok h
  cases h
  refine ⟨hcandidate, happroval, rfl, ⟨collector, hcollector, ?_⟩, hnotice, hhtml, ⟨target, requestId, htarget, ?_, rfl⟩,
    hmeasurements⟩
  · rw [sub_ok hkey]
    exact hview
  · rw [hsubject]
    exact hrequestId

/-- Measurements of one candidate agree. -/
theorem Measures.unique {candidate approval : Json} {m m' : Measured} (h : Measures pk config candidate approval m)
    (h' : Measures pk config candidate approval m') : m.measurements = m'.measurements := by
  have hcandidate : m.candidate = m'.candidate := Except.ok.inj (h.candidate.symm.trans h'.candidate)
  obtain ⟨collector, hcollector, hview⟩ := h.verified
  obtain ⟨collector', hcollector', hview'⟩ := h'.verified
  rw [hcollector] at hcollector'
  cases hcollector'
  rw [hcandidate, hview'] at hview
  have hview := (Except.ok.inj hview).symm
  have hnotice := h.notice
  rw [hcandidate, h'.notice] at hnotice
  have hnotice := (Except.ok.inj hnotice).symm
  have hhtml := h.html
  rw [hcandidate, hview, h'.html] at hhtml
  have hhtml := (Except.ok.inj hhtml).symm
  obtain ⟨target, requestId, htarget, hrequestId, hsubject⟩ := h.subject
  obtain ⟨target', requestId', htarget', hrequestId', hsubject'⟩ := h'.subject
  rw [h.package, hcandidate, ← h'.package, htarget'] at htarget
  cases htarget
  rw [hrequestId'] at hrequestId
  cases hrequestId
  rw [hview, hnotice, hhtml, ← hsubject'] at hsubject
  have hmeasurements := h.measurements
  rw [hsubject, hcandidate, hview, hhtml, h'.measurements] at hmeasurements
  exact (Except.ok.inj hmeasurements).symm

variable (pk config) in
theorem subjectOf_sha256 (requestId : Json) (view : View) (html : Bytes) (notice : String) :
    (subjectOf pk config requestId view html notice).item "payload_sha256" = .str (sha256Hex pk html) ∧
      (subjectOf pk config requestId view html notice).item "disclosure_sha256" =
        .str (sha256Hex pk (encodeUtf8 notice.toList)) := by
  unfold subjectOf
  constructor <;>
  · refine item_of_get? ?_
    rw [get?_dict, List.reverse_append, List.lookup_append]
    rfl

/-- What the measurements say of the candidate. -/
theorem measurementsOf_ok {subject candidate measurements : Json} {view : View} {html : Bytes}
    (h : measurementsOf pk config subject candidate view html = .ok measurements) :
    (∃ d, digest pk candidate = .ok d ∧ measurements.item "candidate_sha256" = .str d) ∧
      measurements.item "artifact_sha256" = subject.item "payload_sha256" ∧
      measurements.item "disclosure_sha256" = subject.item "disclosure_sha256" := by
  unfold measurementsOf at h
  obtain ⟨d, hd, h⟩ := bind_ok h
  obtain ⟨fingerprint, -, h⟩ := bind_ok h
  cases h
  refine ⟨⟨d, hd, ?_⟩, ?_, ?_⟩ <;> exact item_of_get? (by rw [get?_dict]; rfl)

theorem checkHtml_ok {view : View} {candidate : Json} {html : Bytes} (h : checkHtml pk view candidate = .ok html) :
    html = encodeUtf8 (textOf (candidate.item "html")).toList ∧
      renderHtml pk view (candidate.item "disclosure") = .ok html := by
  unfold checkHtml at h
  obtain ⟨value, hvalue, h⟩ := bind_ok h
  split at h
  · next s =>
    obtain ⟨_, -, h⟩ := bind_ok h
    obtain ⟨disclosure, hdisclosure, h⟩ := bind_ok h
    obtain ⟨rendered, hrendered, h⟩ := bind_ok h
    obtain ⟨_, hsame, h⟩ := bind_ok h
    cases h
    have hs := of_decide_eq_true (Incident.require_ok hsame)
    rw [sub_ok hvalue, sub_ok hdisclosure, hrendered, ← hs]
    exact ⟨rfl, rfl⟩
  · cases h

end Measurements

/-! ## Authorization -/

section Authorization
variable {pk : Packages} {assess : Json → Json → Run Json} {config : GateConfig}

/-- A check that authorizes has measured, projected and concluded. -/
theorem check_authorized {candidate trust approval at_ : Json} {result : Check}
    (h : check pk assess config candidate trust approval at_ = .ok result) (ha : result.authorized = true) :
    ∃ m policy report, measure pk assess config candidate trust approval at_ = .ok m ∧ project pk m = .ok policy ∧
      conclude pk config m policy report at_ = .ok () ∧ result.measurements = m.measurements := by
  have hdenied : ∀ {e : Raised} {m f : Json}, denied at_ e m f = .ok result → False := by
    intro e m f h
    unfold denied at h
    split at h
    · cases h
    · cases h
      cases ha
  unfold check at h
  split at h
  · exact (hdenied h).elim
  · next m hm =>
    split at h
    · exact (hdenied h).elim
    · next policy report frame hframe =>
      split at h
      · exact (hdenied h).elim
      · next hconclude =>
        cases h
        obtain ⟨policy', hpolicy, hframe⟩ := bind_ok hframe
        obtain ⟨_, -, hframe⟩ := bind_ok hframe
        cases hframe
        exact ⟨m, policy, report, hm, hpolicy, hconclude, rfl⟩

/-- The activities of the disclosure are those that the session shows. -/
theorem project_activities {m : Measured} {policy : Json} {html : Bytes} (h : project pk m = .ok policy)
    (hnotice : disclosureText (m.candidate.item "disclosure") = .ok m.notice)
    (hrendered : renderHtml pk m.view (m.candidate.item "disclosure") = .ok html) :
    disclosedActivities ((m.candidate.item "disclosure").item "activities") = .ok m.view.observedActivities := by
  unfold disclosureText at hnotice
  obtain ⟨_, -, hnotice⟩ := bind_ok hnotice
  obtain ⟨items, hitems, -⟩ := bind_ok hnotice
  obtain ⟨hfound, -, hordered⟩ := disclosedActivities_ok hitems
  have hsame : items = m.view.observedActivities := by
    refine ordered_ext hordered (renderHtml_ordered hrendered) fun a => ?_
    unfold project at h
    -- the records, the manifest and the projection of the adopted blocks
    iterate 13 obtain ⟨_, -, h⟩ := bind_ok h
    obtain ⟨listed, hlisted, h⟩ := bind_ok h
    obtain ⟨activities, hactivities, h⟩ := bind_ok h
    rw [← sub_ok hlisted, stringItems_some hfound] at hactivities
    obtain rfl := Except.ok.inj hactivities
    iterate 3 obtain ⟨_, -, h⟩ := bind_ok h
    split at h
    · cases h
    · iterate 3 obtain ⟨_, -, h⟩ := bind_ok h
      obtain ⟨_, hshown, h⟩ := bind_ok h
      obtain ⟨_, hclaimed, h⟩ := bind_ok h
      have hs := Incident.require_ok hshown
      have hc := Incident.require_ok hclaimed
      simp only [List.all_map, List.all_eq_true, Function.comp_apply, List.contains_iff_mem, List.mem_map,
        Json.str.injEq, exists_eq_right] at hs hc
      exact ⟨hc a, hs a⟩
  rw [hitems, hsame]

/-- What the reviewer's release binds at a time. -/
structure Approved (pk : Packages) (config : GateConfig) (m : Measured) (at_ : Json) (key body : Json) : Prop where
  pinned : sub config.keys config.reviewerKeyId = .ok key
  signed : verifyMessage pk (m.approval.item "release") (textOf (key.item "public_key")) config.reviewerKeyId
    "release_approval" = .ok body
  bound : ∀ name ∈ approvedNames, (body.item name).pyEq (m.measurements.item name) = true
  current : ∃ approved until_ now, timestamp (body.item "approved_at") = .ok approved ∧
    timestamp (body.item "valid_until") = .ok until_ ∧ timestamp at_ = .ok now ∧ approved ≤ now ∧ now < until_

theorem releaseBody_ok {m : Measured} {at_ body : Json} (h : releaseBody pk config m at_ = .ok body) :
    ∃ key, Approved pk config m at_ key body := by
  unfold releaseBody at h
  obtain ⟨_, -, h⟩ := bind_ok h
  obtain ⟨key, hkey, h⟩ := bind_ok h
  obtain ⟨release, hrelease, h⟩ := bind_ok h
  obtain ⟨public_, hpublic, h⟩ := bind_ok h
  obtain ⟨body', hbody, h⟩ := bind_ok h
  obtain ⟨_, -, h⟩ := bind_ok h
  obtain ⟨_, hbound, h⟩ := bind_ok h
  obtain ⟨_, -, h⟩ := bind_ok h
  obtain ⟨approved, happroved, h⟩ := bind_ok h
  obtain ⟨until_, huntil, h⟩ := bind_ok h
  obtain ⟨now, hnow, h⟩ := bind_ok h
  obtain ⟨prepared, -, h⟩ := bind_ok h
  obtain ⟨prepared', -, h⟩ := bind_ok h
  obtain ⟨_, htimes, h⟩ := bind_ok h
  iterate 6 obtain ⟨_, -, h⟩ := bind_ok h
  cases h
  have ht := Incident.require_ok htimes
  simp only [Bool.and_eq_true, decide_eq_true_eq] at ht
  refine ⟨key, hkey, ?_, fun name hname => Incident.require_ok (forM_ok hbound name hname),
    approved, until_, now, happroved, huntil, hnow, ht.1.2, ht.2⟩
  rw [sub_ok hrelease, sub_ok hpublic]
  exact hbody

theorem conclude_approved {m : Measured} {policy report at_ : Json} {u : Unit}
    (h : conclude pk config m policy report at_ = .ok u) : ∃ key body, Approved pk config m at_ key body := by
  unfold conclude at h
  iterate 15 obtain ⟨_, -, h⟩ := bind_ok h
  obtain ⟨_, happroval, h⟩ := bind_ok h
  unfold checkApproval at happroval
  obtain ⟨body, hbody, -⟩ := bind_ok happroval
  obtain ⟨key, hkey⟩ := releaseBody_ok hbody
  exact ⟨key, body, hkey⟩

end Authorization

/-! ## What stands behind a link -/

section Creations
variable {pk : Packages} {assess : Json → Json → Run Json} {c : Call} {stage name : String}
  {h : History Effect Answer}

/-- The bytes that a call has staged. -/
def Creation.html (a : Creation pk assess c stage name h) : Bytes :=
  (requestOf a.candidate a.preflight a.requestId).html

/-- What a call has established when it links its stage to a visible name. -/
structure Established (a : Creation pk assess c stage name h) : Prop where
  /-- The bytes render the verified session of the candidate with its disclosure. -/
  rendered : ∃ collector view, sub c.config.keys c.config.collectorKeyId = .ok collector ∧
    verifySnapshot pk (a.candidate.item "source") (textOf (collector.item "public_key")) c.config.collectorKeyId = .ok view ∧
    renderHtml pk view (a.candidate.item "disclosure") = .ok a.html ∧
    disclosedActivities ((a.candidate.item "disclosure").item "activities") = .ok view.observedActivities
  /-- The pinned reviewer signed a release of exactly this artifact, current at the final time. -/
  approved : ∃ key body candidateSha256 notice, sub c.config.keys c.config.reviewerKeyId = .ok key ∧
    verifyMessage pk (a.approval.item "release") (textOf (key.item "public_key")) c.config.reviewerKeyId
      "release_approval" = .ok body ∧
    digest pk a.candidate = .ok candidateSha256 ∧ disclosureText (a.candidate.item "disclosure") = .ok notice ∧
    body.item "request_id" = .str a.requestId ∧ body.item "candidate_sha256" = .str candidateSha256 ∧
    body.item "artifact_sha256" = .str (sha256Hex pk a.html) ∧
    body.item "disclosure_sha256" = .str (sha256Hex pk (encodeUtf8 notice.toList)) ∧
    ∃ approvedAt until_ now, timestamp (body.item "approved_at") = .ok approvedAt ∧
      timestamp (body.item "valid_until") = .ok until_ ∧ timestamp a.finalAt = .ok now ∧ approvedAt ≤ now ∧ now < until_

theorem identifier_ok {value : Json} {s : String} (h : identifier value = .ok s) : value = .str s := by
  unfold identifier at h
  split at h
  · split_ifs at h
    · cases h
      rfl
    · cases h
  · cases h

theorem Creation.established (hpk : Canonicalizes pk) (a : Creation pk assess c stage name h) : Established a := by
  obtain ⟨hcandidate, happroval⟩ := ownInputs_ok a.inputs
  obtain ⟨m, policy, report, hmeasure, hproject, hconclude, hfinal⟩ := check_authorized a.decided a.confirmed
  obtain ⟨m', _, _, hmeasure', -, -, hpreflight⟩ := check_authorized a.admitted a.authorized
  have hm := measure_ok hmeasure
  have hsame := hm.unique (measure_ok hmeasure')
  have hc : m.candidate = a.candidate := owned_owned hpk hcandidate hm.candidate
  have ha : m.approval = a.approval := owned_owned hpk happroval hm.approval
  obtain ⟨hbytes, hrendered⟩ := checkHtml_ok hm.html
  have hactivities := project_activities hproject hm.notice hrendered
  have hhtml : m.html = a.html := by rw [hbytes, hc]; rfl
  obtain ⟨hdigest, hartifact, hdisclosure⟩ := measurementsOf_ok hm.measurements
  obtain ⟨target, requestId, -, -, hsubject⟩ := hm.subject
  obtain ⟨hpayload, hnotice⟩ := subjectOf_sha256 pk c.config requestId m.view m.html m.notice
  obtain ⟨collector, hcollector, hview⟩ := hm.verified
  obtain ⟨key, body, hbody⟩ := conclude_approved hconclude
  obtain ⟨candidateSha256, hcandidateSha256, hmeasured⟩ := hdigest
  have hnoticed := hm.notice
  rw [hc] at hview hrendered hactivities hcandidateSha256 hnoticed
  rw [hhtml] at hrendered hpayload hsubject
  rw [hhtml, ← hsubject] at hnotice
  rw [← hsubject] at hpayload
  have hsigned := hbody.signed
  rw [ha] at hsigned
  have hbound : ∀ {field value : String}, field ∈ approvedNames → m.measurements.item field = .str value →
      body.item field = .str value := by
    intro field value hf hv
    have := hbody.bound field hf
    rw [hv] at this
    exact pyEq_str this
  refine ⟨⟨collector, m.view, hcollector, hview, hrendered, hactivities⟩,
    key, body, candidateSha256, m.notice, hbody.pinned, hsigned, hcandidateSha256, hnoticed, hbound (by decide) ?_,
    hbound (by decide) hmeasured, hbound (by decide) (hartifact.trans hpayload),
    hbound (by decide) (hdisclosure.trans hnotice), hbody.current⟩
  rw [hsame, ← hpreflight]
  exact identifier_ok a.requested

end Creations
end VapEvidence.Publication
