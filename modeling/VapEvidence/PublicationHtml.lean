import VapEvidence.PublicationEditor

set_option autoImplicit false

/-!
# The rendered article

`render_html` of the publication pilot: the checks on a view and the fixed template
around its escaped texts.
-/
namespace VapEvidence.Publication
open Json Incident

/-! ## Escapes -/

/-- `html.escape` of a character, quotes included -/
def escapeChar : Char → List Char
  | '&' => "&amp;".toList
  | '<' => "&lt;".toList
  | '>' => "&gt;".toList
  | '"' => "&quot;".toList
  | c => if c.toNat = 39 then "&#x27;".toList else [c]

/-- `html.escape` -/
def escape (s : String) : String := String.ofList (s.toList.flatMap escapeChar)

/-- `_escaped_text`; a carriage return becomes a reference. -/
def escapedText (s : String) : String :=
  String.ofList ((escape s).toList.flatMap fun c => if c = '\r' then "&#13;".toList else [c])

/-! ## The template -/

def htmlHead : String :=
  "<!doctype html>\n" ++
  "<html lang=\"en\">\n" ++
  "<head>\n" ++
  "<meta charset=\"utf-8\">\n" ++
  "<meta name=\"viewport\" content=\"width=device-width,initial-scale=1\">\n" ++
  "<meta http-equiv=\"Content-Security-Policy\" content=\"default-src 'none'; style-src " ++
  "'unsafe-inline'; base-uri 'none'; form-action 'none'\">\n" ++
  "<title>Prepared publication | "

def htmlTitled : String :=
  "</title>\n" ++
  "<style>\n" ++
  ":root\x7bcolor-scheme:light\x7d*\x7bbox-sizing:border-box\x7dbody\x7bmargin:0;" ++
  "background:#f3f5f8;color:#182536;font:17px/1.65 " ++
  "system-ui,-apple-system,BlinkMacSystemFont,\"Segoe UI\",sans-serif\x7d" ++
  "main\x7bmax-width:900px;margin:48px auto;padding:44px 52px;background:#fff;border:1px " ++
  "solid #dce3eb;border-radius:16px\x7dheader\x7bpadding-bottom:28px;border-bottom:1px " ++
  "solid #dce3eb\x7d.eyebrow\x7bmargin:0 0 8px;color:#315779;font-size:12px;" ++
  "font-weight:700;letter-spacing:.12em;text-transform:uppercase\x7dh1\x7bfont-size:36px;" ++
  "line-height:1.15;margin:0 0 16px;letter-spacing:-.025em\x7d.metadata\x7bfont-size:13px;" ++
  "color:#526579;overflow-wrap:anywhere;margin:0\x7d" ++
  "code\x7bfont-family:ui-monospace,SFMono-Regular,Consolas,monospace\x7d" ++
  ".content-block\x7bmargin:32px 0\x7d.content-block h2\x7bfont-size:17px;" ++
  "text-transform:capitalize;color:#315779;margin:0 0 10px\x7d" ++
  ".block-text\x7bwhite-space:pre-wrap;overflow-wrap:anywhere;margin:0\x7d" ++
  "#ai-use-disclosure\x7bmargin-top:40px;padding:24px;background:#edf3fa;border:1px solid " ++
  "#cadbed;border-radius:10px\x7d#ai-use-disclosure h2\x7bfont-size:20px;line-height:1.3;" ++
  "margin:0 0 12px\x7d.disclosure-text\x7bmargin:0;font-size:15px\x7d" ++
  "footer\x7bfont-size:13px;color:#526579;margin-top:24px\x7d" ++
  "@media(max-width:640px)\x7bmain\x7bmargin:12px;padding:26px 22px;border-radius:10px\x7d" ++
  "h1\x7bfont-size:29px\x7d\x7d@media print\x7bbody\x7bbackground:#fff\x7dmain\x7bmargin:0;" ++
  "max-width:none;padding:18px;border:0\x7d#ai-use-disclosure\x7bbreak-inside:avoid\x7d\x7d\n" ++
  "</style>\n" ++
  "</head>\n" ++
  "<body>\n" ++
  "<main>\n" ++
  "<header>\n" ++
  "<p class=\"eyebrow\">Synthetic local example</p>\n" ++
  "<h1>Prepared publication</h1>\n" ++
  "<p class=\"metadata\">Document <code>"

def htmlIdentified : String := "</code><br>Source revision <code>"

def htmlRevised : String :=
  "</code></p>\n" ++
  "</header>\n" ++
  "<article aria-label=\"Publication content\">\n"

def htmlListed : String :=
  "\n" ++
  "</article>\n" ++
  "<section id=\"ai-use-disclosure\" aria-labelledby=\"disclosure-heading\">\n" ++
  "<h2 id=\"disclosure-heading\">AI-use disclosure</h2>\n" ++
  "<p class=\"disclosure-text\">"

def htmlNoticed : String :=
  "</p>\n" ++
  "</section>\n" ++
  "<footer>Prepared for local review. This file does not establish publisher receipt, " ++
  "acceptance, or legal compliance.</footer>\n" ++
  "</main>\n" ++
  "</body>\n" ++
  "</html>\n"

/-- A block of the article. -/
def sectionHtml (block : String × String) : String :=
  let label := String.ofList (block.1.toList.map fun c => if c = '_' || c = '-' then ' ' else c)
  "<section class=\"content-block\" data-block-id=\"" ++ escape block.1 ++ "\">\n<h2>" ++ escape label ++
    "</h2>\n<p class=\"block-text\">" ++ escapedText block.2 ++ "</p>\n</section>"

/-- The article of a view with its notice. -/
def articleHtml (view : View) (notice : String) : String :=
  htmlHead ++ escape view.documentId ++ htmlTitled ++ escape view.documentId ++ htmlIdentified ++
    escape view.revisionId ++ htmlRevised ++ String.intercalate "\n" (view.blocks.map sectionHtml) ++ htmlListed ++
    escapedText notice ++ htmlNoticed

/-! ## Views -/

section Render
variable (pk : Packages)

/-- The checks on one adopted block, where some have been seen. -/
def checkAdopted (view : View) (observedAt : ℤ) (seen : List String) (adopted : Adopted) : Run Unit := do
  let _ ← identifier (.str adopted.blockId)
  let _ ← identifier (.str adopted.revisionId)
  let _ ← editorHex (.str adopted.sha256) 64
  match view.blocks.lookup adopted.blockId with
  | some text => do
    Incident.require (!seen.contains adopted.blockId && view.observedActivities.contains adopted.activity)
      "Invalid adopted block identity or activity"
    Incident.require (adopted.sha256 = sha256Hex pk (encodeUtf8 text.toList)) "Adopted block bytes do not match"
    Incident.require ((← timestamp adopted.observedAt) ≤ observedAt) "Adopted block postdates the checkpoint"
  | none => inputError "Invalid adopted block identity or activity"

def checkAllAdopted (view : View) (observedAt : ℤ) (seen : List String) : List Adopted → Run Unit
  | [] => .ok ()
  | adopted :: rest => do
    checkAdopted pk view observedAt seen adopted
    checkAllAdopted view observedAt (adopted.blockId :: seen) rest

/-- `_view` -/
def checkView (view : View) : Run Unit := do
  let _ ← identifier (.str view.documentId)
  let _ ← identifier (.str view.revisionId)
  let _ ← checkDocument (stateJson view.documentId view.blocks)
  let _ ← disclosedActivities (.arr (view.observedActivities.map .str))
  let _ ← editorHex (.str view.sourceSha256) 64
  let _ ← editorHex (.str view.lineageSha256) 64
  Incident.require ((← digest pk (stateJson view.documentId view.blocks)) = view.sourceSha256)
    "Rendered source does not match its measured digest"
  let observedAt ← timestamp view.observedAt
  Incident.require (view.adopted.length ≤ maxBlocks) "Invalid adopted block list"
  checkAllAdopted pk view observedAt [] view.adopted

/-- `render_html` -/
@[irreducible] def renderHtml (view : View) (disclosure : Json) : Run Bytes := do
  checkView pk view
  let notice ← disclosureText disclosure
  let result := encodeUtf8 (articleHtml view notice).toList
  Incident.require (result.length ≤ maxHtml) "Rendered artifact exceeds the HTML byte limit"
  return result

end Render

/-! ## Activities -/

theorem stringItems_map (items : List String) : stringItems (.arr (items.map .str)) = some items := by
  change (items.map Json.str).mapM _ = some items
  induction items with
  | nil => rfl
  | cons s items ih =>
    rw [List.map_cons, List.mapM_cons, ih]
    rfl

theorem disclosedActivities_ok {value : Json} {items : List String} (h : disclosedActivities value = .ok items) :
    stringItems value = some items ∧ (∀ a ∈ items, a ∈ aiActivities) ∧ items.Pairwise (· < ·) := by
  unfold disclosedActivities at h
  split at h
  · next found hfound =>
    split_ifs at h with hc
    · cases h
      simp only [Bool.and_eq_true, List.all_eq_true, List.contains_iff_mem, decide_eq_true_eq] at hc
      exact ⟨hfound, hc.1, hc.2⟩
    · cases h
  · cases h

/-- The activities of a view that is rendered are in order. -/
theorem renderHtml_ordered {pk : Packages} {view : View} {disclosure : Json} {html : Bytes}
    (h : renderHtml pk view disclosure = .ok html) : view.observedActivities.Pairwise (· < ·) := by
  unfold renderHtml at h
  obtain ⟨_, hview, -⟩ := bind_ok h
  unfold checkView at hview
  iterate 3 obtain ⟨_, -, hview⟩ := bind_ok hview
  obtain ⟨items, hitems, -⟩ := bind_ok hview
  obtain ⟨hfound, -, hordered⟩ := disclosedActivities_ok hitems
  rw [stringItems_map] at hfound
  exact Option.some.inj hfound ▸ hordered

theorem ordered_ext {α : Type} [LinearOrder α] {xs ys : List α} (hx : xs.Pairwise (· < ·)) (hy : ys.Pairwise (· < ·))
    (h : ∀ a, a ∈ xs ↔ a ∈ ys) : xs = ys :=
  ((List.perm_ext_iff_of_nodup (hx.imp ne_of_lt) (hy.imp ne_of_lt)).2 h).eq_of_pairwise
    (fun _ _ _ _ hab hba => absurd hba (lt_asymm hab)) hx hy

end VapEvidence.Publication
