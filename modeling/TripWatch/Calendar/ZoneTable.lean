import TripWatch.Calendar.Zone

/-!
# Table of time zones

Names of time zones by the rule that their clocks follow. Offsets and times of change are in
seconds, offsets to the east of Greenwich.
-/

namespace TripWatch.ZoneTable

/-- North America: the second Sunday of March to the first Sunday of November. -/
def northAmerica : Daylight :=
  ⟨3600, ⟨3, 2, .sunday, 7200, false⟩, ⟨11, 1, .sunday, 7200, false⟩⟩

/-- Easter Island: at the same instants as in Chile. -/
def easterIsland : Daylight :=
  ⟨3600, ⟨9, 1, .saturday, 79200, false⟩, ⟨4, 1, .saturday, 79200, false⟩⟩

/-- Cuba: at midnight of standard time. -/
def cuba : Daylight :=
  ⟨3600, ⟨3, 2, .sunday, 0, false⟩, ⟨11, 1, .sunday, 3600, false⟩⟩

/-- Chile: the first Saturdays of September and April, at their end. -/
def chile : Daylight :=
  ⟨3600, ⟨9, 1, .saturday, 86400, false⟩, ⟨4, 1, .saturday, 86400, false⟩⟩

/-- Europe: the last Sundays of March and October, everywhere at the same instant. -/
def europe : Daylight :=
  ⟨3600, ⟨3, 5, .sunday, 3600, true⟩, ⟨10, 5, .sunday, 3600, true⟩⟩

/-- Troll station: two hours, on the days of Europe. -/
def troll : Daylight :=
  ⟨7200, ⟨3, 5, .sunday, 3600, true⟩, ⟨10, 5, .sunday, 3600, true⟩⟩

/-- Israel: the Friday after the fourth Thursday of March to the last Sunday of October. -/
def israel : Daylight :=
  ⟨3600, ⟨3, 4, .thursday, 93600, false⟩, ⟨10, 5, .sunday, 7200, false⟩⟩

/-- Lebanon: the last Sundays of March and October, at midnight. -/
def lebanon : Daylight :=
  ⟨3600, ⟨3, 5, .sunday, 0, false⟩, ⟨10, 5, .sunday, 0, false⟩⟩

/-- Moldova: the last Sundays of March and October, an hour before the Union. -/
def moldova : Daylight :=
  ⟨3600, ⟨3, 5, .sunday, 7200, false⟩, ⟨10, 5, .sunday, 10800, false⟩⟩

/-- Egypt: the last Friday of April to the last Thursday of October. -/
def egypt : Daylight :=
  ⟨3600, ⟨4, 5, .friday, 0, false⟩, ⟨10, 5, .thursday, 86400, false⟩⟩

/-- Australia: the first Sundays of October and April. -/
def australia : Daylight :=
  ⟨3600, ⟨10, 1, .sunday, 7200, false⟩, ⟨4, 1, .sunday, 10800, false⟩⟩

/-- Lord Howe Island: half an hour, on the days of Australia. -/
def lordHowe : Daylight :=
  ⟨1800, ⟨10, 1, .sunday, 7200, false⟩, ⟨4, 1, .sunday, 7200, false⟩⟩

/-- New Zealand: the last Sunday of September to the first Sunday of April. -/
def newZealand : Daylight :=
  ⟨3600, ⟨9, 5, .sunday, 7200, false⟩, ⟨4, 1, .sunday, 10800, false⟩⟩

/-- Chatham Islands: at the same instants as in New Zealand. -/
def chatham : Daylight :=
  ⟨3600, ⟨9, 5, .sunday, 9900, false⟩, ⟨4, 1, .sunday, 13500, false⟩⟩

/-- Every rule with the names of the zones that follow it. -/
def rules : List (ClockRule × List String) := [
  (.fixed (-43200),
    ["Etc/GMT+12"]),
  (.fixed (-39600),
    ["Etc/GMT+11", "Pacific/Midway", "Pacific/Niue", "Pacific/Pago_Pago", "Pacific/Samoa",
     "US/Samoa"]),
  (.fixed (-36000),
    ["Etc/GMT+10", "HST", "Pacific/Honolulu", "Pacific/Johnston", "Pacific/Rarotonga",
     "Pacific/Tahiti", "US/Hawaii"]),
  (.fixed (-34200),
    ["Pacific/Marquesas"]),
  (.fixed (-32400),
    ["Etc/GMT+9", "Pacific/Gambier"]),
  (.fixed (-28800),
    ["Etc/GMT+8", "Pacific/Pitcairn"]),
  (.fixed (-25200),
    ["America/Creston", "America/Dawson", "America/Dawson_Creek", "America/Fort_Nelson",
     "America/Hermosillo", "America/Mazatlan", "America/Phoenix", "America/Whitehorse",
     "Canada/Yukon", "Etc/GMT+7", "MST", "Mexico/BajaSur", "US/Arizona"]),
  (.fixed (-21600),
    ["America/Bahia_Banderas", "America/Belize", "America/Chihuahua", "America/Costa_Rica",
     "America/El_Salvador", "America/Guatemala", "America/Managua", "America/Merida",
     "America/Mexico_City", "America/Monterrey", "America/Regina", "America/Swift_Current",
     "America/Tegucigalpa", "Canada/Saskatchewan", "Etc/GMT+6", "Mexico/General",
     "Pacific/Galapagos"]),
  (.fixed (-18000),
    ["America/Atikokan", "America/Bogota", "America/Cancun", "America/Cayman",
     "America/Coral_Harbour", "America/Eirunepe", "America/Guayaquil", "America/Jamaica",
     "America/Lima", "America/Panama", "America/Porto_Acre", "America/Rio_Branco",
     "Brazil/Acre", "EST", "Etc/GMT+5", "Jamaica"]),
  (.fixed (-14400),
    ["America/Anguilla", "America/Antigua", "America/Aruba", "America/Barbados",
     "America/Blanc-Sablon", "America/Boa_Vista", "America/Campo_Grande", "America/Caracas",
     "America/Cuiaba", "America/Curacao", "America/Dominica", "America/Grenada",
     "America/Guadeloupe", "America/Guyana", "America/Kralendijk", "America/La_Paz",
     "America/Lower_Princes", "America/Manaus", "America/Marigot", "America/Martinique",
     "America/Montserrat", "America/Port_of_Spain", "America/Porto_Velho",
     "America/Puerto_Rico", "America/Santo_Domingo", "America/St_Barthelemy",
     "America/St_Kitts", "America/St_Lucia", "America/St_Thomas", "America/St_Vincent",
     "America/Tortola", "America/Virgin", "Brazil/West", "Etc/GMT+4"]),
  (.fixed (-10800),
    ["America/Araguaina", "America/Argentina/Buenos_Aires", "America/Argentina/Catamarca",
     "America/Argentina/ComodRivadavia", "America/Argentina/Cordoba",
     "America/Argentina/Jujuy", "America/Argentina/La_Rioja", "America/Argentina/Mendoza",
     "America/Argentina/Rio_Gallegos", "America/Argentina/Salta",
     "America/Argentina/San_Juan", "America/Argentina/San_Luis", "America/Argentina/Tucuman",
     "America/Argentina/Ushuaia", "America/Bahia", "America/Belem", "America/Buenos_Aires",
     "America/Catamarca", "America/Cayenne", "America/Cordoba", "America/Fortaleza",
     "America/Jujuy", "America/Maceio", "America/Mendoza", "America/Montevideo",
     "America/Paramaribo", "America/Punta_Arenas", "America/Recife", "America/Rosario",
     "America/Santarem", "America/Sao_Paulo", "Antarctica/Palmer", "Antarctica/Rothera",
     "Atlantic/Stanley", "Brazil/East", "Etc/GMT+3"]),
  (.fixed (-7200),
    ["America/Noronha", "Atlantic/South_Georgia", "Brazil/DeNoronha", "Etc/GMT+2"]),
  (.fixed (-3600),
    ["Atlantic/Cape_Verde", "Etc/GMT+1"]),
  (.fixed 0,
    ["Africa/Abidjan", "Africa/Accra", "Africa/Bamako", "Africa/Banjul", "Africa/Bissau",
     "Africa/Conakry", "Africa/Dakar", "Africa/Freetown", "Africa/Lome", "Africa/Monrovia",
     "Africa/Nouakchott", "Africa/Ouagadougou", "Africa/Sao_Tome", "Africa/Timbuktu",
     "America/Danmarkshavn", "Atlantic/Reykjavik", "Atlantic/St_Helena", "Etc/GMT",
     "Etc/GMT+0", "Etc/GMT-0", "Etc/GMT0", "Etc/Greenwich", "Etc/UCT", "Etc/UTC",
     "Etc/Universal", "Etc/Zulu", "GMT", "GMT+0", "GMT-0", "GMT0", "Greenwich", "Iceland",
     "UCT", "UTC", "Universal", "Zulu"]),
  (.fixed 3600,
    ["Africa/Algiers", "Africa/Bangui", "Africa/Brazzaville", "Africa/Douala",
     "Africa/Kinshasa", "Africa/Lagos", "Africa/Libreville", "Africa/Luanda", "Africa/Malabo",
     "Africa/Ndjamena", "Africa/Niamey", "Africa/Porto-Novo", "Africa/Tunis", "Etc/GMT-1"]),
  (.fixed 7200,
    ["Africa/Blantyre", "Africa/Bujumbura", "Africa/Gaborone", "Africa/Harare",
     "Africa/Johannesburg", "Africa/Juba", "Africa/Khartoum", "Africa/Kigali",
     "Africa/Lubumbashi", "Africa/Lusaka", "Africa/Maputo", "Africa/Maseru", "Africa/Mbabane",
     "Africa/Tripoli", "Africa/Windhoek", "Etc/GMT-2", "Europe/Kaliningrad", "Libya"]),
  (.fixed 10800,
    ["Africa/Addis_Ababa", "Africa/Asmara", "Africa/Asmera", "Africa/Dar_es_Salaam",
     "Africa/Djibouti", "Africa/Kampala", "Africa/Mogadishu", "Africa/Nairobi",
     "Antarctica/Syowa", "Asia/Aden", "Asia/Amman", "Asia/Baghdad", "Asia/Bahrain",
     "Asia/Damascus", "Asia/Istanbul", "Asia/Kuwait", "Asia/Qatar", "Asia/Riyadh",
     "Etc/GMT-3", "Europe/Istanbul", "Europe/Kirov", "Europe/Minsk", "Europe/Moscow",
     "Europe/Simferopol", "Europe/Volgograd", "Indian/Antananarivo", "Indian/Comoro",
     "Indian/Mayotte", "Turkey", "W-SU"]),
  (.fixed 12600,
    ["Asia/Tehran", "Iran"]),
  (.fixed 14400,
    ["Asia/Baku", "Asia/Dubai", "Asia/Muscat", "Asia/Tbilisi", "Asia/Yerevan", "Etc/GMT-4",
     "Europe/Astrakhan", "Europe/Samara", "Europe/Saratov", "Europe/Ulyanovsk", "Indian/Mahe",
     "Indian/Mauritius", "Indian/Reunion"]),
  (.fixed 16200,
    ["Asia/Kabul"]),
  (.fixed 18000,
    ["Antarctica/Mawson", "Antarctica/Vostok", "Asia/Aqtau", "Asia/Aqtobe", "Asia/Ashgabat",
     "Asia/Ashkhabad", "Asia/Atyrau", "Asia/Dushanbe", "Asia/Karachi", "Asia/Oral",
     "Asia/Qyzylorda", "Asia/Samarkand", "Asia/Tashkent", "Asia/Yekaterinburg", "Etc/GMT-5",
     "Indian/Kerguelen", "Indian/Maldives"]),
  (.fixed 19800,
    ["Asia/Calcutta", "Asia/Colombo", "Asia/Kolkata"]),
  (.fixed 20700,
    ["Asia/Kathmandu", "Asia/Katmandu"]),
  (.fixed 21600,
    ["Asia/Bishkek", "Asia/Dacca", "Asia/Dhaka", "Asia/Kashgar", "Asia/Omsk", "Asia/Thimbu",
     "Asia/Thimphu", "Asia/Urumqi", "Etc/GMT-6", "Indian/Chagos"]),
  (.fixed 23400,
    ["Asia/Rangoon", "Asia/Yangon", "Indian/Cocos"]),
  (.fixed 25200,
    ["Antarctica/Davis", "Asia/Bangkok", "Asia/Barnaul", "Asia/Ho_Chi_Minh", "Asia/Hovd",
     "Asia/Jakarta", "Asia/Krasnoyarsk", "Asia/Novokuznetsk", "Asia/Novosibirsk",
     "Asia/Phnom_Penh", "Asia/Pontianak", "Asia/Saigon", "Asia/Tomsk", "Asia/Vientiane",
     "Etc/GMT-7", "Indian/Christmas"]),
  (.fixed 28800,
    ["Antarctica/Casey", "Asia/Brunei", "Asia/Choibalsan", "Asia/Chongqing", "Asia/Chungking",
     "Asia/Harbin", "Asia/Hong_Kong", "Asia/Irkutsk", "Asia/Kuala_Lumpur", "Asia/Kuching",
     "Asia/Macao", "Asia/Macau", "Asia/Makassar", "Asia/Manila", "Asia/Shanghai",
     "Asia/Singapore", "Asia/Taipei", "Asia/Ujung_Pandang", "Asia/Ulaanbaatar",
     "Asia/Ulan_Bator", "Australia/Perth", "Australia/West", "Etc/GMT-8", "Hongkong", "PRC",
     "ROC", "Singapore"]),
  (.fixed 31500,
    ["Australia/Eucla"]),
  (.fixed 32400,
    ["Asia/Chita", "Asia/Dili", "Asia/Jayapura", "Asia/Khandyga", "Asia/Pyongyang",
     "Asia/Seoul", "Asia/Tokyo", "Asia/Yakutsk", "Etc/GMT-9", "Japan", "Pacific/Palau", "ROK"]),
  (.fixed 34200,
    ["Australia/Darwin", "Australia/North"]),
  (.fixed 36000,
    ["Antarctica/DumontDUrville", "Asia/Ust-Nera", "Asia/Vladivostok", "Australia/Brisbane",
     "Australia/Lindeman", "Australia/Queensland", "Etc/GMT-10", "Pacific/Chuuk",
     "Pacific/Guam", "Pacific/Port_Moresby", "Pacific/Saipan", "Pacific/Truk", "Pacific/Yap"]),
  (.fixed 39600,
    ["Asia/Magadan", "Asia/Sakhalin", "Asia/Srednekolymsk", "Etc/GMT-11",
     "Pacific/Bougainville", "Pacific/Efate", "Pacific/Guadalcanal", "Pacific/Kosrae",
     "Pacific/Noumea", "Pacific/Pohnpei", "Pacific/Ponape"]),
  (.fixed 43200,
    ["Asia/Anadyr", "Asia/Kamchatka", "Etc/GMT-12", "Kwajalein", "Pacific/Fiji",
     "Pacific/Funafuti", "Pacific/Kwajalein", "Pacific/Majuro", "Pacific/Nauru",
     "Pacific/Tarawa", "Pacific/Wake", "Pacific/Wallis"]),
  (.fixed 46800,
    ["Etc/GMT-13", "Pacific/Apia", "Pacific/Enderbury", "Pacific/Fakaofo", "Pacific/Kanton",
     "Pacific/Tongatapu"]),
  (.fixed 50400,
    ["Etc/GMT-14", "Pacific/Kiritimati"]),
  (.yearly (-36000) northAmerica,
    ["America/Adak", "America/Atka", "US/Aleutian"]),
  (.yearly (-32400) northAmerica,
    ["America/Anchorage", "America/Juneau", "America/Metlakatla", "America/Nome",
     "America/Sitka", "America/Yakutat", "US/Alaska"]),
  (.yearly (-28800) northAmerica,
    ["America/Ensenada", "America/Los_Angeles", "America/Santa_Isabel", "America/Tijuana",
     "America/Vancouver", "Canada/Pacific", "Mexico/BajaNorte", "PST8PDT", "US/Pacific"]),
  (.yearly (-25200) northAmerica,
    ["America/Boise", "America/Cambridge_Bay", "America/Ciudad_Juarez", "America/Denver",
     "America/Edmonton", "America/Inuvik", "America/Shiprock", "America/Yellowknife",
     "Canada/Mountain", "MST7MDT", "Navajo", "US/Mountain"]),
  (.yearly (-21600) northAmerica,
    ["America/Chicago", "America/Indiana/Knox", "America/Indiana/Tell_City",
     "America/Knox_IN", "America/Matamoros", "America/Menominee",
     "America/North_Dakota/Beulah", "America/North_Dakota/Center",
     "America/North_Dakota/New_Salem", "America/Ojinaga", "America/Rainy_River",
     "America/Rankin_Inlet", "America/Resolute", "America/Winnipeg", "CST6CDT",
     "Canada/Central", "US/Central", "US/Indiana-Starke"]),
  (.yearly (-21600) easterIsland,
    ["Chile/EasterIsland", "Pacific/Easter"]),
  (.yearly (-18000) cuba,
    ["America/Havana", "Cuba"]),
  (.yearly (-18000) northAmerica,
    ["America/Detroit", "America/Fort_Wayne", "America/Grand_Turk",
     "America/Indiana/Indianapolis", "America/Indiana/Marengo", "America/Indiana/Petersburg",
     "America/Indiana/Vevay", "America/Indiana/Vincennes", "America/Indiana/Winamac",
     "America/Indianapolis", "America/Iqaluit", "America/Kentucky/Louisville",
     "America/Kentucky/Monticello", "America/Louisville", "America/Montreal",
     "America/Nassau", "America/New_York", "America/Nipigon", "America/Pangnirtung",
     "America/Port-au-Prince", "America/Thunder_Bay", "America/Toronto", "Canada/Eastern",
     "EST5EDT", "US/East-Indiana", "US/Eastern", "US/Michigan"]),
  (.yearly (-14400) northAmerica,
    ["America/Glace_Bay", "America/Goose_Bay", "America/Halifax", "America/Moncton",
     "America/Thule", "Atlantic/Bermuda", "Canada/Atlantic"]),
  (.yearly (-14400) chile,
    ["America/Santiago", "Chile/Continental"]),
  (.yearly (-12600) northAmerica,
    ["America/St_Johns", "Canada/Newfoundland"]),
  (.yearly (-10800) northAmerica,
    ["America/Miquelon"]),
  (.yearly (-7200) europe,
    ["America/Godthab", "America/Nuuk"]),
  (.yearly (-3600) europe,
    ["Atlantic/Azores"]),
  (.yearly 0 europe,
    ["Atlantic/Canary", "Atlantic/Faeroe", "Atlantic/Faroe", "Atlantic/Madeira", "Eire",
     "Europe/Belfast", "Europe/Dublin", "Europe/Guernsey", "Europe/Isle_of_Man",
     "Europe/Jersey", "Europe/Lisbon", "Europe/London", "GB", "GB-Eire", "Portugal", "WET"]),
  (.yearly 0 troll,
    ["Antarctica/Troll"]),
  (.yearly 3600 europe,
    ["Africa/Ceuta", "Arctic/Longyearbyen", "Atlantic/Jan_Mayen", "CET", "Europe/Amsterdam",
     "Europe/Andorra", "Europe/Belgrade", "Europe/Berlin", "Europe/Bratislava",
     "Europe/Brussels", "Europe/Budapest", "Europe/Busingen", "Europe/Copenhagen",
     "Europe/Gibraltar", "Europe/Ljubljana", "Europe/Luxembourg", "Europe/Madrid",
     "Europe/Malta", "Europe/Monaco", "Europe/Oslo", "Europe/Paris", "Europe/Podgorica",
     "Europe/Prague", "Europe/Rome", "Europe/San_Marino", "Europe/Sarajevo", "Europe/Skopje",
     "Europe/Stockholm", "Europe/Tirane", "Europe/Vaduz", "Europe/Vatican", "Europe/Vienna",
     "Europe/Warsaw", "Europe/Zagreb", "Europe/Zurich", "MET", "Poland"]),
  (.yearly 7200 israel,
    ["Asia/Jerusalem", "Asia/Tel_Aviv", "Israel"]),
  (.yearly 7200 lebanon,
    ["Asia/Beirut"]),
  (.yearly 7200 europe,
    ["Asia/Famagusta", "Asia/Nicosia", "EET", "Europe/Athens", "Europe/Bucharest",
     "Europe/Helsinki", "Europe/Kiev", "Europe/Kyiv", "Europe/Mariehamn", "Europe/Nicosia",
     "Europe/Riga", "Europe/Sofia", "Europe/Tallinn", "Europe/Uzhgorod", "Europe/Vilnius",
     "Europe/Zaporozhye"]),
  (.yearly 7200 moldova,
    ["Europe/Chisinau", "Europe/Tiraspol"]),
  (.yearly 7200 egypt,
    ["Africa/Cairo", "Egypt"]),
  (.yearly 34200 australia,
    ["Australia/Adelaide", "Australia/Broken_Hill", "Australia/South", "Australia/Yancowinna"]),
  (.yearly 36000 australia,
    ["Antarctica/Macquarie", "Australia/ACT", "Australia/Canberra", "Australia/Currie",
     "Australia/Hobart", "Australia/Melbourne", "Australia/NSW", "Australia/Sydney",
     "Australia/Tasmania", "Australia/Victoria"]),
  (.yearly 37800 lordHowe,
    ["Australia/LHI", "Australia/Lord_Howe"]),
  (.yearly 39600 australia,
    ["Pacific/Norfolk"]),
  (.yearly 43200 newZealand,
    ["Antarctica/McMurdo", "Antarctica/South_Pole", "NZ", "Pacific/Auckland"]),
  (.yearly 45900 chatham,
    ["NZ-CHAT", "Pacific/Chatham"]),
  (.listed (-10800) [(1711249200, -14400), (1728187200, -10800)],
    ["America/Asuncion"]),
  (.listed (-3600) [(1729990800, -7200)],
    ["America/Scoresbysund"]),
  (.listed 3600 [(1710036000, 0), (1713060000, 3600)],
    ["Africa/Casablanca", "Africa/El_Aaiun"]),
  (.listed 7200 [(1713571200, 10800), (1729897200, 7200)],
    ["Asia/Gaza", "Asia/Hebron"]),
  (.listed 21600 [(1709229600, 18000)],
    ["Asia/Almaty", "Asia/Qostanay"])]

end TripWatch.ZoneTable
