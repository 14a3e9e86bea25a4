/-!
The stylesheet of all pages. Its colours are set twice, once for each theme, and named
everywhere else.
-/

namespace DocPages.Site

/-- The stylesheet, line by line. -/
def stylesheetLines : List String :=
  [":root \x7b",
   "    --bg-page: #f6f7f9;",
   "    --bg-panel: #ffffff;",
   "    --bg-muted: #eef1f5;",
   "    --text-main: #1f2933;",
   "    --text-dim: #616e7c;",
   "    --border: #d9e2ec;",
   "    --accent: #3b5bdb;",
   "    --accent-alt: #7048e8;",
   "    --field: #2f9e44;",
   "    --property: #1c7ed6;",
   "    --method: #e8590c;",
   "    --shadow: 0 1px 3px rgba(0, 0, 0, 0.08);",
   "    --shadow-raised: 0 8px 24px rgba(0, 0, 0, 0.12);",
   "\x7d",
   "",
   "[data-theme=\"dark\"] \x7b",
   "    --bg-page: #14171c;",
   "    --bg-panel: #1d2128;",
   "    --bg-muted: #262b33;",
   "    --text-main: #e4e7eb;",
   "    --text-dim: #9aa5b1;",
   "    --border: #3a414c;",
   "    --accent: #748ffc;",
   "    --accent-alt: #9775fa;",
   "    --shadow: 0 1px 3px rgba(0, 0, 0, 0.4);",
   "    --shadow-raised: 0 8px 24px rgba(0, 0, 0, 0.5);",
   "\x7d",
   "",
   "* \x7b",
   "    box-sizing: border-box;",
   "    margin: 0;",
   "    padding: 0;",
   "\x7d",
   "",
   "body \x7b",
   "    font-family: system-ui, -apple-system, \"Segoe UI\", Roboto, sans-serif;",
   "    line-height: 1.6;",
   "    color: var(--text-main);",
   "    background: var(--bg-page);",
   "    transition: background-color 0.2s, color 0.2s;",
   "\x7d",
   "",
   "header \x7b",
   "    position: sticky;",
   "    top: 0;",
   "    z-index: 10;",
   "    padding: 1.25rem 2rem;",
   "    color: #fff;",
   "    background: linear-gradient(120deg, var(--accent) 0%, var(--accent-alt) 100%);",
   "    box-shadow: var(--shadow-raised);",
   "\x7d",
   "",
   ".header-content \x7b",
   "    display: flex;",
   "    align-items: center;",
   "    justify-content: space-between;",
   "    max-width: 1400px;",
   "    margin: 0 auto;",
   "\x7d",
   "",
   "header h1 \x7b",
   "    font-size: 1.4rem;",
   "    font-weight: 600;",
   "\x7d",
   "",
   "header p \x7b",
   "    font-size: 0.9rem;",
   "    opacity: 0.9;",
   "\x7d",
   "",
   "header a \x7b",
   "    color: #fff;",
   "\x7d",
   "",
   ".theme-toggle \x7b",
   "    padding: 0.4rem 0.9rem;",
   "    font-size: 1.1rem;",
   "    color: #fff;",
   "    background: rgba(255, 255, 255, 0.2);",
   "    border: none;",
   "    border-radius: 6px;",
   "    cursor: pointer;",
   "\x7d",
   "",
   ".theme-toggle:hover \x7b",
   "    background: rgba(255, 255, 255, 0.35);",
   "\x7d",
   "",
   ".container \x7b",
   "    display: grid;",
   "    grid-template-columns: 300px 1fr;",
   "    gap: 2rem;",
   "    max-width: 1400px;",
   "    margin: 0 auto;",
   "    padding: 2rem;",
   "\x7d",
   "",
   ".sidebar \x7b",
   "    position: sticky;",
   "    top: 90px;",
   "    height: fit-content;",
   "    max-height: calc(100vh - 110px);",
   "    overflow-y: auto;",
   "    padding: 1.25rem;",
   "    background: var(--bg-panel);",
   "    border-radius: 10px;",
   "    box-shadow: var(--shadow);",
   "\x7d",
   "",
   ".sidebar h2 \x7b",
   "    margin: 1.25rem 0 0.75rem;",
   "    padding-bottom: 0.4rem;",
   "    font-size: 0.85rem;",
   "    text-transform: uppercase;",
   "    color: var(--text-dim);",
   "    border-bottom: 2px solid var(--accent);",
   "\x7d",
   "",
   ".search-container \x7b",
   "    position: relative;",
   "\x7d",
   "",
   "#search-input \x7b",
   "    width: 100%;",
   "    padding: 0.65rem;",
   "    font-size: 0.9rem;",
   "    color: var(--text-main);",
   "    background: var(--bg-muted);",
   "    border: 2px solid var(--border);",
   "    border-radius: 6px;",
   "\x7d",
   "",
   "#search-input:focus \x7b",
   "    outline: none;",
   "    border-color: var(--accent);",
   "\x7d",
   "",
   ".search-results \x7b",
   "    display: none;",
   "    position: absolute;",
   "    top: 100%;",
   "    left: 0;",
   "    right: 0;",
   "    z-index: 20;",
   "    max-height: 380px;",
   "    margin-top: 0.4rem;",
   "    overflow-y: auto;",
   "    background: var(--bg-panel);",
   "    border: 2px solid var(--border);",
   "    border-radius: 6px;",
   "    box-shadow: var(--shadow-raised);",
   "\x7d",
   "",
   ".search-results.active \x7b",
   "    display: block;",
   "\x7d",
   "",
   ".search-result-item \x7b",
   "    display: block;",
   "    padding: 0.6rem 0.75rem;",
   "    color: inherit;",
   "    text-decoration: none;",
   "    border-bottom: 1px solid var(--border);",
   "    cursor: pointer;",
   "\x7d",
   "",
   ".search-result-item:last-child \x7b",
   "    border-bottom: none;",
   "\x7d",
   "",
   ".search-result-item:hover \x7b",
   "    background: var(--bg-muted);",
   "\x7d",
   "",
   ".search-result-name \x7b",
   "    font-weight: 600;",
   "    color: var(--accent);",
   "\x7d",
   "",
   ".search-result-kind \x7b",
   "    font-size: 0.7rem;",
   "    text-transform: uppercase;",
   "    color: var(--text-dim);",
   "\x7d",
   "",
   ".nav-tabs \x7b",
   "    display: flex;",
   "    gap: 0.4rem;",
   "    margin-bottom: 0.75rem;",
   "\x7d",
   "",
   ".nav-tab \x7b",
   "    flex: 1;",
   "    padding: 0.4rem;",
   "    font-size: 0.85rem;",
   "    color: var(--text-dim);",
   "    background: var(--bg-muted);",
   "    border: none;",
   "    border-radius: 6px;",
   "    cursor: pointer;",
   "\x7d",
   "",
   ".nav-tab.active \x7b",
   "    color: #fff;",
   "    background: var(--accent);",
   "\x7d",
   "",
   ".tab-content \x7b",
   "    display: none;",
   "\x7d",
   "",
   ".tab-content.active \x7b",
   "    display: block;",
   "\x7d",
   "",
   ".type-list \x7b",
   "    list-style: none;",
   "\x7d",
   "",
   ".type-list li \x7b",
   "    margin-bottom: 0.3rem;",
   "\x7d",
   "",
   ".type-list a \x7b",
   "    display: block;",
   "    padding: 0.45rem 0.6rem;",
   "    font-size: 0.9rem;",
   "    color: var(--text-main);",
   "    text-decoration: none;",
   "    border-radius: 6px;",
   "\x7d",
   "",
   ".type-list a:hover \x7b",
   "    background: var(--bg-muted);",
   "\x7d",
   "",
   ".type-list li.active > a \x7b",
   "    font-weight: 600;",
   "    color: #fff;",
   "    background: var(--accent);",
   "\x7d",
   "",
   ".namespace-label \x7b",
   "    display: block;",
   "    padding-left: 0.6rem;",
   "    font-size: 0.7rem;",
   "    color: var(--text-dim);",
   "\x7d",
   "",
   ".namespace-group \x7b",
   "    margin-bottom: 1.25rem;",
   "\x7d",
   "",
   ".namespace-group h3 \x7b",
   "    margin-bottom: 0.4rem;",
   "    font-size: 0.85rem;",
   "    color: var(--accent-alt);",
   "\x7d",
   "",
   ".main-content \x7b",
   "    min-width: 0;",
   "    padding: 2rem;",
   "    background: var(--bg-panel);",
   "    border-radius: 10px;",
   "    box-shadow: var(--shadow);",
   "\x7d",
   "",
   ".welcome-section h2 \x7b",
   "    margin-bottom: 0.75rem;",
   "    font-size: 1.8rem;",
   "    color: var(--accent);",
   "\x7d",
   "",
   ".welcome-section p \x7b",
   "    color: var(--text-dim);",
   "\x7d",
   "",
   ".stats-grid \x7b",
   "    display: grid;",
   "    grid-template-columns: repeat(auto-fit, minmax(180px, 1fr));",
   "    gap: 1.25rem;",
   "    margin: 2rem 0;",
   "\x7d",
   "",
   ".stat-card \x7b",
   "    padding: 1.5rem;",
   "    text-align: center;",
   "    color: #fff;",
   "    background: linear-gradient(135deg, var(--accent) 0%, var(--accent-alt) 100%);",
   "    border-radius: 10px;",
   "    box-shadow: var(--shadow-raised);",
   "\x7d",
   "",
   ".stat-number \x7b",
   "    font-size: 2.2rem;",
   "    font-weight: 700;",
   "\x7d",
   "",
   ".stat-label \x7b",
   "    font-size: 0.8rem;",
   "    letter-spacing: 1px;",
   "    text-transform: uppercase;",
   "    opacity: 0.9;",
   "\x7d",
   "",
   ".breadcrumb \x7b",
   "    display: flex;",
   "    gap: 0.5rem;",
   "    margin-bottom: 0.75rem;",
   "    font-size: 0.9rem;",
   "    color: var(--text-dim);",
   "\x7d",
   "",
   ".breadcrumb a \x7b",
   "    color: var(--accent);",
   "    text-decoration: none;",
   "\x7d",
   "",
   ".breadcrumb .current \x7b",
   "    font-weight: 600;",
   "    color: var(--text-main);",
   "\x7d",
   "",
   ".type-header \x7b",
   "    margin-bottom: 2rem;",
   "    padding-bottom: 1.5rem;",
   "    border-bottom: 3px solid var(--border);",
   "\x7d",
   "",
   ".type-title \x7b",
   "    font-size: 2.2rem;",
   "    color: var(--accent);",
   "\x7d",
   "",
   ".namespace-info,",
   ".type-summary \x7b",
   "    color: var(--text-dim);",
   "\x7d",
   "",
   ".remarks,",
   ".example \x7b",
   "    margin-top: 1.25rem;",
   "    padding: 1rem;",
   "    background: var(--bg-muted);",
   "    border-left: 4px solid var(--accent);",
   "    border-radius: 6px;",
   "\x7d",
   "",
   ".remarks h4,",
   ".example h4 \x7b",
   "    margin-bottom: 0.4rem;",
   "    font-size: 0.85rem;",
   "    text-transform: uppercase;",
   "    color: var(--accent-alt);",
   "\x7d",
   "",
   ".summary-badges \x7b",
   "    display: flex;",
   "    flex-wrap: wrap;",
   "    gap: 0.75rem;",
   "    margin: 1rem 0 2rem;",
   "\x7d",
   "",
   ".badge \x7b",
   "    padding: 0.4rem 0.9rem;",
   "    font-size: 0.85rem;",
   "    font-weight: 600;",
   "    color: #fff;",
   "    text-decoration: none;",
   "    border-radius: 999px;",
   "\x7d",
   "",
   ".badge-field \x7b",
   "    background: var(--field);",
   "\x7d",
   "",
   ".badge-property \x7b",
   "    background: var(--property);",
   "\x7d",
   "",
   ".badge-method \x7b",
   "    background: var(--method);",
   "\x7d",
   "",
   ".member-section \x7b",
   "    margin: 2.5rem 0;",
   "\x7d",
   "",
   ".member-section > h3 \x7b",
   "    margin-bottom: 1.25rem;",
   "    padding-bottom: 0.4rem;",
   "    font-size: 1.5rem;",
   "    color: var(--accent-alt);",
   "    border-bottom: 2px solid var(--border);",
   "\x7d",
   "",
   ".member-grid \x7b",
   "    display: grid;",
   "    grid-template-columns: repeat(auto-fill, minmax(280px, 1fr));",
   "    gap: 1rem;",
   "\x7d",
   "",
   ".member-card,",
   ".method-card \x7b",
   "    padding: 1.25rem;",
   "    background: var(--bg-muted);",
   "    border-left: 4px solid var(--accent);",
   "    border-radius: 8px;",
   "\x7d",
   "",
   ".method-card \x7b",
   "    margin: 1.25rem 0;",
   "\x7d",
   "",
   ".member-card p,",
   ".method-summary \x7b",
   "    color: var(--text-dim);",
   "\x7d",
   "",
   ".method-header \x7b",
   "    display: flex;",
   "    align-items: center;",
   "    justify-content: space-between;",
   "\x7d",
   "",
   ".signature \x7b",
   "    font-size: 0.85rem;",
   "    color: var(--text-dim);",
   "\x7d",
   "",
   ".anchor-link \x7b",
   "    color: var(--text-dim);",
   "    text-decoration: none;",
   "    opacity: 0;",
   "\x7d",
   "",
   ".method-card:hover .anchor-link \x7b",
   "    opacity: 1;",
   "\x7d",
   "",
   ".params-section,",
   ".returns-section,",
   ".remarks-section \x7b",
   "    margin-top: 0.9rem;",
   "    padding: 0.9rem;",
   "    background: var(--bg-panel);",
   "    border-radius: 6px;",
   "\x7d",
   "",
   ".params-section h5,",
   ".returns-section h5,",
   ".remarks-section h5 \x7b",
   "    margin-bottom: 0.4rem;",
   "    font-size: 0.8rem;",
   "    text-transform: uppercase;",
   "    color: var(--accent-alt);",
   "\x7d",
   "",
   ".params-table \x7b",
   "    width: 100%;",
   "    border-collapse: collapse;",
   "\x7d",
   "",
   ".params-table td \x7b",
   "    padding: 0.5rem;",
   "    border-bottom: 1px solid var(--border);",
   "\x7d",
   "",
   ".params-table td:first-child \x7b",
   "    width: 30%;",
   "\x7d",
   "",
   "code \x7b",
   "    padding: 0.1rem 0.4rem;",
   "    font-family: ui-monospace, Menlo, Consolas, monospace;",
   "    font-size: 0.9em;",
   "    color: var(--accent);",
   "    background: var(--bg-muted);",
   "    border-radius: 4px;",
   "\x7d",
   "",
   "pre \x7b",
   "    overflow-x: auto;",
   "    padding: 1rem;",
   "    background: var(--bg-page);",
   "    border: 1px solid var(--border);",
   "    border-radius: 6px;",
   "\x7d",
   "",
   "pre code \x7b",
   "    padding: 0;",
   "    color: var(--text-main);",
   "    background: none;",
   "\x7d",
   "",
   "footer \x7b",
   "    padding: 1.5rem;",
   "    font-size: 0.85rem;",
   "    text-align: center;",
   "    color: var(--text-dim);",
   "\x7d",
   "",
   "@media (max-width: 1024px) \x7b",
   "    .container \x7b",
   "        grid-template-columns: 1fr;",
   "    \x7d",
   "",
   "    .sidebar \x7b",
   "        position: static;",
   "        max-height: none;",
   "    \x7d",
   "\x7d",
   "",
   "@media (max-width: 640px) \x7b",
   "    .header-content \x7b",
   "        flex-direction: column;",
   "        align-items: flex-start;",
   "        gap: 0.75rem;",
   "    \x7d",
   "",
   "    .member-grid \x7b",
   "        grid-template-columns: 1fr;",
   "    \x7d",
   "\x7d"]

def stylesheet : String :=
  String.join (stylesheetLines.map (· ++ "\n"))

end DocPages.Site
