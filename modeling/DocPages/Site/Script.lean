/-!
The script of all pages: it switches the theme, searches the index, and changes tabs on the
overview.
-/

namespace DocPages.Site

/-- The script, line by line. -/
def scriptLines : List String :=
  ["(function () \x7b",
   "    const root = document.documentElement;",
   "    const themeToggle = document.getElementById('theme-toggle');",
   "",
   "    function applyTheme(theme) \x7b",
   "        root.setAttribute('data-theme', theme);",
   "        const icon = document.querySelector('.theme-icon');",
   "        if (icon) \x7b",
   "            icon.textContent = theme === 'dark' ? '☀' : '☾';",
   "        \x7d",
   "    \x7d",
   "",
   "    applyTheme(localStorage.getItem('theme') || root.getAttribute('data-theme') || 'light');",
   "",
   "    themeToggle?.addEventListener('click', () => \x7b",
   "        const next = root.getAttribute('data-theme') === 'dark' ? 'light' : 'dark';",
   "        localStorage.setItem('theme', next);",
   "        applyTheme(next);",
   "    \x7d);",
   "",
   "    const MIN_QUERY = 2;",
   "    const MAX_RESULTS = 10;",
   "    const searchInput = document.getElementById('search-input');",
   "    const searchResults = document.getElementById('search-results');",
   "    let searchIndex = [];",
   "",
   "    fetch('search-index.json')",
   "        .then((response) => response.json())",
   "        .then((entries) => \x7b searchIndex = entries; \x7d)",
   "        .catch((error) => console.error('could not load search index:', error));",
   "",
   "    function escapeHtml(text) \x7b",
   "        const div = document.createElement('div');",
   "        div.textContent = text;",
   "        return div.innerHTML;",
   "    \x7d",
   "",
   "    searchInput?.addEventListener('input', (event) => \x7b",
   "        const query = event.target.value.toLowerCase().trim();",
   "        if (query.length < MIN_QUERY) \x7b",
   "            searchResults.classList.remove('active');",
   "            return;",
   "        \x7d",
   "",
   "        const hits = searchIndex",
   "            .filter((entry) =>",
   "                entry.name.toLowerCase().includes(query) ||",
   "                entry.summary.toLowerCase().includes(query))",
   "            .slice(0, MAX_RESULTS);",
   "",
   "        searchResults.innerHTML = hits.length > 0",
   "            ? hits.map((entry) => `",
   "                <a class=\"search-result-item\" href=\"$\x7bencodeURI(entry.url)\x7d\">",
   "                    <div class=\"search-result-name\">$\x7bescapeHtml(entry.name)\x7d</div>",
   "                    <div class=\"search-result-kind\">$\x7bescapeHtml(entry.type)\x7d</div>",
   "                </a>`).join('')",
   "            : '<div class=\"search-result-item\">No results</div>';",
   "        searchResults.classList.add('active');",
   "    \x7d);",
   "",
   "    document.addEventListener('click', (event) => \x7b",
   "        if (!searchInput?.contains(event.target) && !searchResults?.contains(event.target)) \x7b",
   "            searchResults?.classList.remove('active');",
   "        \x7d",
   "    \x7d);",
   "",
   "    const tabs = document.querySelectorAll('.nav-tab');",
   "    tabs.forEach((tab) => \x7b",
   "        tab.addEventListener('click', () => \x7b",
   "            tabs.forEach((other) => other.classList.remove('active'));",
   "            document.querySelectorAll('.tab-content').forEach((panel) => panel.classList.remove('active'));",
   "            tab.classList.add('active');",
   "            document.getElementById(`$\x7btab.dataset.tab\x7d-tab`)?.classList.add('active');",
   "        \x7d);",
   "    \x7d);",
   "\x7d)();"]

def script : String :=
  String.join (scriptLines.map (· ++ "\n"))

end DocPages.Site
