import RecordFix.Text.Charset.Chart

/-!
# Korean

The characters of the Korean standard and the syllables that it leaves out, in rows of 190 cells.
-/

namespace RecordFix.Text

def koreanChart : Chart := Chart.parse
  "갂갃갅갆갋갌갍갎갏갘갞갟갡갢갣갥갦갧갨갩갪갫갮갲갳갴 .6 갵갶갷갺갻갽갾갿 AC41-AC4A 걌걎걏걐걑걒걓걕 .6 걖걗
    걙걚걛 AC5D-AC6F 걲걳걵걶걹걻걼걽걾걿겂겇겈겍겎겏겑겒겓겕겖겗겘겙겚겛겞겢겣겤겥겦겧겫겭겮겱겲겳겴겵겶겷겺겾
    겿곀곂곃곅곆곇곉곊곋 ACCD-ACD4 곖 ACD8-ACDF 곢곣곥곦곩곫곭곮곲곴곷곸곹곺곻곾곿괁괂괃괅괇괈괉괊괋괎괐괒괓괔괕
    괖괗괙괚괛괝괞괟 AD21-AD28 괪괫괮괯괰괱괲괳 .6 괶괷괹괺괻괽괾괿굀굁굂굃굆굈굊굋굌굍굎굏굑굒굓굕굖굗 .6
    AD59-AD60 굢 AD64-AD6B 굮굯굱굲굷굸굹굺굾궀궃궄궅궆궇궊궋궍궎궏 AD91-AD9B 궞궟궠궡궢궣 ADA5-ADB6 ADB8-ADBF
    귂귃귅귆귇귉귊귋귌귍귎귏귒 ADD4-ADDB 귝귞귟귡귢귣 ADE5-ADF7 귺귻귽귾긂긃긄긅긆긇긊긌긎긏긐긑긒긓 AE15-AE1C
    .6 AE1D-AE2F 긲긳긵긶긹긻긼 .6 긽긾긿깂깄깇깈깉깋깏깑깒깓깕깗깘깙깚깛깞깢깣깤깦깧깪깫깭깮깯깱깲깳깴깵깶깷깺
    깾깿꺀꺁꺂꺃꺆꺇꺈꺉꺊꺋 AE8D-AEBB 꺿껁껂껃껅껆껇껈껉껊껋껎껒껓껔껕껖껗껚껛 AEDD-AEE7 껩껪껬껮껯껰껱껲껳껵껶
    껷껹껺껻 AEFD-AF05 .6 꼆꼉꼊꼋꼌꼎꼏 AF11-AF23 .6 AF24-AF2B 꼮꼯꼱꼳꼵꼶꼷꼸꼹꼺꼻꼾꽀꽄꽅꽆꽇꽊꽋꽌꽍꽎꽏
    AF51-AF5B 꽞꽟꽠꽡꽢꽣 AF66-AF78 꽺꽻꽼꽽꽾꽿꾁꾂꾃꾅꾆꾇꾉꾊꾋꾌꾍꾎꾏꾒꾓꾔꾖꾗꾘꾙꾚꾛 AF9D-AFB7 꾺꾻꾽꾾
    꾿꿁꿂꿃꿄꿅꿆꿊꿌꿏꿐꿑꿒꿓꿕꿖꿗꿘꿙꿚꿛꿝꿞꿟꿠꿡 .6 꿢꿣꿤꿥꿦꿧꿪꿫꿬꿭꿮꿯꿲꿳꿵꿶꿷꿹꿺꿻꿼꿽꿾꿿뀂뀃
    .6 뀅뀆뀇뀈뀉뀊뀋뀍뀎뀏뀑뀒뀓뀕뀖뀗뀘뀙뀚뀛 B01E-B027 B029-B043 끆끇끉끋끍끏끐끑끒끖끘끚끛끜 B05E-B07B 끾끿
    낁낂낃낅낆낇낈낉낊낋낎낐낒낓낔낕낖낗낛낝낞낣낤낥낦낧낪낰낲낶낷낹낺낻낽낾낿냀냁냂냃냆냊냋냌냍냎냏냒 .6 냓냕냖
    냗냙냚냛냜냝냞냟냡냢냣냤 B0E6-B0F0 .6 B0F1-B107 넊넍넎넏넑넔넕넖넗넚넞넟넠넡넢넦넧넩넪넫넭넮넯넰넱넲넳넶넺넻
    넼넽넾넿녂녃녅녆녇녉녊녋녌녍녎녏녒녓녖녗녙녚녛녝녞녟 B161-B177 녺녻녽녾녿놁놃놄놅놆놇놊놌놎놏놐놑놕놖놗놙놚
    놛 B19D-B1A7 B1A9-B1B8 .6 B1B9-B1CB 뇍뇎뇏뇑뇒뇓뇕 .6 뇖뇗뇘뇙뇚뇛뇞 B1E0-B1E7 뇪뇫뇭뇮뇯 B1F1-B1F8 뇺뇼뇾뇿
    눀눁눂눃눆눇눉눊눍눎눏눐눑눒눓눖눘눚눛눜눝눞눟 B221-B233 눵눶눷눸눹눺눻 B23D-B257 뉙뉚뉛뉝뉞뉟뉡뉢뉣뉤뉥뉦뉧
    B26A-B273 뉶뉷뉸뉹뉺뉻뉽뉾뉿늀늁늂늃늆늇늈늊늋늌늍늎 .6 늏늒늓늕늖늗늛늜늝늞늟늢늤늧늨늩늫늭늮늯늱늲늳늵늶늷
    .6 B2B8-B2C7 닊닋닍닎닏닑닓닔닕닖닗닚닜닞닟닠닡닣닧닩닪닰닱닲닶닼닽닾댂댃댅댆댇댉댊댋댌댍댎댏댒댖댗댘댙댚댛
    B31D-B353 덗덙덚덝덠덡덢덣덦덨덪덬덭덯덲덳덵덶덷덹덺덻덼덽덾덿뎂뎆뎇뎈뎉뎊뎋뎍 .6 뎎뎏뎑뎒뎓 B395-B39F 뎢뎣
    뎤뎥뎦뎧뎩뎪뎫뎭 .6 B3AE-B3C3 돆돇돉돊돍돏돑돒돓돖돘돚돜돞돟돡돢돣돥돦돧 B3E9-B3FB B3FD-B40F 됑됒됓됔됕됖됗
    됙됚됛됝됞됟됡됢됣됤됥됦됧됪 B42C-B433 B435-B44F 둒둓둕둖둗둙둚둛둜둝둞둟둢둤둦 .6 둧둨둩둪둫 B46D-B47F 뒁뒂
    .6 뒃뒄뒅뒆뒇 B489-B49C 뒞뒟뒠뒡뒢뒣뒥뒦뒧뒩뒪뒫 B4AD-B4B4 뒶뒸뒺뒻뒼뒽뒾뒿듁듂듃듅듆듇듉듊듋듌듍듎듏듑듒듓
    듔듖듗듘듙듚듛듞듟듡듢듥듧듨듩듪듫듮듰듲듳듴듵듶듷 B4F9-B513 딖딗딙딚딝딞딟딠딡딢딣딦딫딬딭딮딯딲딳딵딶딷딹
    딺딻딼딽딾딿땂땆 .6 땇땈땉땊땎땏땑땒땓땕땖땗땘땙땚땛땞 B562-B56A .6 B56B-B59F 떢떣떥떦떧떩떬떭떮떯떲떶떷떸떹
    떺떾떿뗁뗂뗃뗅뗆뗇뗈뗉뗊뗋뗎뗒뗓뗔뗕뗖뗗 B5D9-B5EB B5ED-B60F 똒똓똕똖똗똙똚똛똜똝 .6 똞똟똠똡똢똣똤똦똧똨똩
    똪똫똭똮똯똰똱똲똳똵똶똷똸똹똺 .6 B63B-B647 B649-B663 뙥뙦뙧 B669-B69B 뚞뚟뚡뚢뚣뚥뚦뚧뚨뚩뚪뚭뚮뚯뚰
    B6B2-B6D3 B6D5-B6DD .6 B6DE-B6EF 뛱뛲뛳뛵뛶뛷뛹뛺 .6 뛻뛼뛽뛾뛿뜂뜃뜄 B706-B727 뜪뜫뜭뜮뜱뜲뜳뜴뜵뜶뜷뜺
    B73C-B743 띅띆띇띉띊띋띍띎띏띐띑띒띓 B756-B75F 띡띢띣띥띦띧띩띪띫띬띭띮띯띲띴띶띷띸띹띺띻띾띿랁랂랃랅랆랇랈
    랉랊랋랎랓랔랕랚랛랝랞랟랡랢랣랤랥랦랧랪랮랯랰랱랲랳랶랷 B7B9-B7C1 .6 럂럃럄럅럆럈 B7CA-B7DD .6 B7DE-B7EB 럮
    럯럱럲럳럵럶럷럸럹럺럻럾렂렃렄렅렆렊렋렍렎렏렑렒렓렔렕렖렗렚렜렞렟렠렡렢렣렦렧렩렪렫렭렮렯렰렱렲렳렶렺렻렼렽
    렾렿롁롂롃 B845-B850 롒 B854-B85B 롞롟롡롢롣롥롦롧롨롩롪롫롮롰롲롳롴롵롶롷롹롺롻 B87D-B88C B88E-B89F .6
    B8A0-B8A7 뢩뢪뢫뢬뢭뢮뢯뢱뢲뢳뢵뢶뢷뢹뢺뢻뢼뢽 .6 뢾뢿룂룄룆룇룈룉룊룋룍룎룏룑룒룓 B8D5-B8DC 룞룠룢룣룤룥룦
    룧룪룫룭룮룯룱룲룳룴룵룶룷룺룼룾룿뤀뤁뤂뤃 B905-B917 뤙뤚뤛뤜뤝뤞뤟 B921-B93B 뤾뤿륁륂륃륅륆륇륈륉륊륋륍륎륐
    륒륓륔륕륖륗륚륛륝륞륟륡륢륣륤륥륦륧륪륬륮륯륰륱륲륳륶륷륹륺륻륽 .6 륾륿릀릁릂릃릆릈릋릌 B98F-B99E .6
    B99F-B9AB 릮릯릱릲릳릵릶릷릸릹릺릻릾맀맂맃맄맅맆맇맊맋맍맓맔맕맖맗맚맜맟맠맢맦맧맩맪맫맭맮맯맰맱맲맳맶맻맼맽
    맾맿먂먃먄먅먆먇 BA09-BA14 BA16-BA37 먺먻먽먾먿멁멃멄멅멆멇멊멌멏멐멑멒멖멗멙멚멛멝멞멟멠멡멢멣멦멪멫멬멭멮
    멯 .6 멲멳멵멶멷 BA79-BA82 몆몈몉몊몋몍몎몏몐몑몒 .6 BA93-BAA7 몪몭몮몯몱몳몴몵몶몷몺몼몾몿뫀뫁뫂뫃뫅뫆뫇
    BAC9-BAD7 BADA-BAFB 뫽뫾뫿묁묂묃 BB05-BB0C 묎묐묒묓묔묕묖묗묙묚묛묝묞묟 BB21-BB28 묪 BB2C-BB33 묷묹묺묿뭀뭁
    뭂뭃뭆뭈뭊뭋뭌뭎뭑뭒 .6 뭓뭕뭖뭗 BB59-BB60 뭢 BB64-BB6B 뭭뭮뭯뭰뭱 .6 BB72-BB87 뮉뮊뮋뮍뮎뮏 BB91-BBA3 뮥뮦
    뮧뮩뮪뮫뮭뮮뮯뮰뮱뮲뮳뮵뮶 BBB8-BBBF 믁믂믃믅믆믇믉믊믋믌믍믎믏믑믒 BBD4-BBF7 믺믻믽믾밁밃밄밅밆밇밊밎밐밒밓
    밙밚밠밡밢밣밦밨밪밫밬밮밯밲밳밵 .6 밶밷밹밺밻밼밽밾밿뱂뱆뱇뱈뱊뱋뱎뱏 BC51-BC59 .6 뱚뱛뱜 BC5E-BC83 벆벇벉
    벊벍벏벐벑벒벓벖벘벛벜벝벞벟벢벣벥벦벩벪벫벬벭벮벯벲벶벷벸벹벺벻벾벿볁볂볃 BCC5-BCCC 볎볒볓볔볖볗볙볚볛
    BCDD-BCF3 볷볹볺볻볽볾볿봀봁봂봃봆봈봊봋봌봍봎봏봑봒봓 BD15-BD1D .6 봞봟봠봡봢봣봥봦봧봨봩봪봫 BD2D-BD39 .6
    봺봻봼봽봾봿뵁뵂뵃뵄뵅뵆뵇뵊뵋뵍뵎뵏뵑뵒뵓뵔뵕뵖뵗 BD5A-BD63 뵥뵦뵧 BD69-BD7F 붂붃붅붆붋붌붍붎붏붒붔붖붗붘붛
    붝붞붟붠붡붢붣 BDA5-BDAF 붱붲붳붴붵붶붷 BDB9-BDD3 뷖뷗뷙뷚뷛 BDDD-BDE8 뷪뷫뷬뷭뷮뷯뷱 .6 뷲뷳뷵뷶뷷뷹뷺뷻뷼
    뷽뷾뷿븁븂븄븆븇븈븉븊븋븎븏븑븒븓 .6 븕븖븗븘븙븚븛븞 BE20-BE43 빆빇빉빊빋빍빏빐빑빒빓빖빘빜빝빞빟빢빣빥빦
    빧빩빫빬빭빮빯빲빶빷빸빹빺빾빿뺁뺂뺃뺅뺆뺇뺈뺉뺊뺋뺎뺒뺓뺔뺕뺖뺗 BE9A-BEA7 BEA9-BECF 뻒뻓 .6 뻕뻖뻙뻚뻛뻜뻝
    뻞뻟뻡뻢뻦뻧뻨뻩뻪뻫 BEED-BEF5 .6 BEF6-BF00 뼂뼃뼄뼅뼆뼇 BF0A-BF17 뼚 BF1E-BF3F 뽂뽃뽅뽆뽇뽉뽊뽋뽌뽍뽎뽏뽒뽓
    뽔 BF56-BF93 BF95-BF9D .6 BF9E-BFAF BFB1-BFB8 .6 BFB9-BFC4 뿆뿇뿈뿉뿊뿋뿎뿏뿑뿒뿓뿕뿖뿗뿘뿙뿚뿛뿝뿞뿠
    BFE2-C03B C03D-C050 쁒쁓쁔쁕쁖쁗쁙쁚쁛 .6 쁝쁞쁟쁡쁢쁣쁤쁥쁦쁧 C06A-C079 .6 C07A-C08F 삒삓삕삖삗삙삚삛삜삝삞
    삟삢삤삦삧삨삩삪삫삮삱삲삷삸삹삺삻삾샂샃샄샆샇샊샋샍샎샏샑샒샓샔샕샖샗샚샞샟샠샡샢샣샦샧샩샪샫샭샮샯샰샱샲샳
    샶샸샺샻샼샽샾샿섁섂섃섅섆섇섉섊섋섌섍섎섏섑섒섓섔섖섗섘섙섚섛섡섢섥섨섩섪섫섮섲섳섴섵섷섺섻섽섾섿셁셂셃셄셅
    셆셇셊셎셏셐셑셒셓셖셗 .6 셙셚셛셝셞셟셠셡셢셣셦셪셫셬셭셮셯셱셲셳셵셶셷셹셺셻 .6 C17C-C184 솆솇솈솉솊솋솏솑
    솒솓솕솗솘솙솚솛솞솠솢솣솤솦솧솪솫솭솮솯 C1B1-C1BC 솾솿쇀쇁쇂쇃쇅쇆쇇쇉쇊쇋쇍쇎쇏쇐쇑쇒쇓쇕쇖쇙쇚쇛쇜쇝쇞쇟
    쇡쇢쇣쇥쇦쇧쇩쇪쇫쇬쇭쇮쇯쇲 C1F4-C1FB 쇾쇿숁숂숃숅숆숇숈숉숊숋숎숐숒숓숔숕숖숗숚숛숝숞숡숢숣숤숥숦숧숪숬숮
    숰숳 C235-C245 .6 쉆쉇쉉쉊쉋쉌쉍쉎쉏쉒쉓쉕쉖쉗쉙쉚쉛쉜쉝쉞쉟쉡쉢쉣쉤쉦 .6 쉧쉨쉩쉪쉫쉮쉯쉱쉲쉳쉵쉶쉷쉸쉹쉺쉻
    쉾슀슂슃슄슅슆슇슊슋슌슍슎슏슑슒슓슔슕슖슗슙슚슜슞슟슠슡슢슣슦슧슩슪슫슮슯슰슱슲슳슶슸 C2BA-C2DB 싞싟싡싢싥
    싦싧싨싩싪싮싰싲싳싴싵싷싺싽싾싿쌁쌂쌃쌄쌅쌆쌇쌊쌋쌎쌏쌐쌑쌒쌖쌗쌙쌚쌛쌝쌞쌟쌠쌡쌢쌣쌦쌧 C32A-C332 .6
    C333-C344 C346-C34D .6 C34E-C367 썪썫썭썮썯썱썳썴썵썶썷썺썻썾썿쎀쎁쎂쎃쎅쎆쎇쎉쎊쎋 C38D-C3BF C3C1-C3D7 쏚쏛
    쏝쏞쏡쏣쏤쏥쏦쏧쏪쏫쏬쏮쏯쏰쏱쏲쏳쏶쏷쏹쏺쏻쏼쏽쏾 .6 C3FF-C407 쐉쐊쐋쐌쐍쐎쐏 C411-C41A .6 C41B-C423 쐥쐦쐧
    쐨쐩쐪쐫쐭쐮쐯쐱쐲쐳쐵쐶쐷쐸쐹쐺쐻 C43E-C447 C449-C463 쑦쑧쑩쑪쑫쑭쑮쑯쑰쑱쑲쑳쑶쑷쑸쑺쑻쑼쑽쑾쑿 C481-C493
    쒕쒖쒗쒘쒙쒚쒛 C49D-C4B7 쒹쒺쒻 C4BD-C4C5 .6 C4C6-C4DF .6 C4E0-C4E8 쓪쓫쓬쓭쓮쓯쓲쓳쓵쓶쓷쓹쓻쓼쓽쓾
    C502-C50B 씍씎씏씑씒씓씕씖씗씘씙씚씛 C51D-C527 씪씫씭씮씯씱씲씳씴씵씶씷씺씼씾씿앀앁앂앃앆앇앋앏앐앑앒앖앚앛
    앜앟앢앣앥앦앧앩앪앫앬앭앮앯앲앶앷앸앹앺앻앾앿얁얂얃얅얆얈얉얊얋얎얐얒얓얔얖얙얚얛얝얞얟 C5A1-C5A8 C5AA-C5B3
    얶 .6 얷얺얿엀엁엂엃엋엍엏엒엓엕엖엗엙엚엛엜엝엞엟엢엤엦엧 .6 엨엩엪엫엯엱엲엳엵엸엹엺엻옂옃옄옉옊옋옍옎옏옑
    옒옓옔옕옖옗옚옝옞옟옠옡옢옣옦옧옩옪옫옯옱옲옶옸옺옼옽옾옿왂왃왅왆왇왉왊왋왌왍왎왏왒왖왗왘왙왚왛왞왟
    C661-C66B 왭왮왰왲왳왴왵왶왷왺왻왽왾왿욁욂욃욄욅욆욇욊욌욎욏욐욑욒욓욖욗욙욚욛욝욞욟욠욡욢욣욦욨욪욫욬욭욮욯
    욲욳욵욶욷욻욼욽욾욿웂웄웆웇웈웉웊웋웎 .6 웏웑웒웓웕웖웗웘웙웚웛웞웟웢웣웤웥웦웧웪웫웭웮웯웱웲 .6 웳웴웵웶웷
    웺웻웼웾웿윀윁윂윃윆윇윉윊윋윍윎윏윐윑윒윓윖윘윚윛윜윝윞윟윢윣윥윦윧윩윪윫윬윭윮윯윲윴윶윸윹윺윻윾윿읁읂읃읅
    읆읇읈읉읋읎읐읙읚읛읝읞읟읡읢읣읤읥읦읧읩읪 C76C-C773 읶읷읹읺읻읿잀잁잂잆잋잌잍잏잒잓잕잙잛잜잝잞잟잢잧잨
    잩잪잫잮잯잱잲잳잵잶잷잸잹잺잻잾쟂쟃쟄쟅쟆쟇쟊쟋쟍쟏쟑쟒쟓쟔쟕쟖쟗쟙쟚쟛쟜 .6 쟞쟟쟠쟡쟢쟣쟥쟦쟧쟩쟪쟫
    C7ED-C7FA .6 쟻쟼쟽쟾쟿젂젃젅젆젇젉젋젌젍젎젏젒젔젗젘젙젚젛젞젟젡젢젣젥젦젧젨젩젪젫젮젰젲젳젴젵젶젷젹젺젻젽
    젾젿졁졂졃졄졅졆졇졊졋졎졏졐졑졒졓 C855-C86F 졲졳졵졶졷졹졻졼졽졾졿좂좄좈좉좊좎좏좐좑좒좓 C895-C89C 좞좠좢좣
    좤좥좦좧 C8A9-C8BB 좾좿죀죁 .6 죂죃죅죆죇죉죊죋죍죎죏죐죑죒죓죖죘죚죛죜죝죞죟죢죣죥 .6 C8E6-C8F4 죶죷죸죹죺
    죻죾죿줁줂줃줇줈줉줊줋줎 3000-3002 ·‥…¨〃 AD ―∥＼∼‘’“”〔〕 3008-3011 ±×÷≠≤≥∞∴°′″℃Å￠￡￥♂♀∠⊥⌒∂∇≡≒§※☆★○●◎◇◆□■
    △▲▽▼→←↑↓↔〓≪≫√∽∝∵∫∬∈∋⊆⊇⊂⊃∪∩∧∨￢줐줒줓줔줕줖줗 C919-C92B .6 줭줮줯줰줱줲줳 C935-C947 .6 C948-C94F 쥒쥓쥕쥖쥗
    쥙쥚쥛쥜쥝쥞쥟쥢 C964-C96B 쥭쥮쥯⇒⇔∀∃´～ˇ˘˝˚˙¸˛¡¿ː∮∑∏¤℉‰◁◀▷▶♤♠♡♥♧♣⊙◈▣◐◑▒▤▥▨▧▦▩♨☏☎☜☞¶†‡↕↗↙↖↘♭♩♪♬㉿㈜№㏇™㏂㏘℡
    €® .17 쥱쥲쥳쥵쥶쥷쥸쥹쥺쥻 C97D-C987 즊즋즍즎즏 .6 즑즒즓즔즕즖즗즚즜 C99E-C9AE .6 C9AF-C9BF 짂짃짅짆짉짋짌
    짍짎짏짒짔짗짘짛 FF01-FF3B ￦ FF3D-FF5D ￣짞짟짡짣짥짦짨짩짪짫짮짲짳짴짵짶짷짺짻짽짾짿쨁쨂쨃쨄 .6 쨅쨆쨇쨊쨎
    쨏쨐쨑쨒쨓쨕쨖쨗 CA19-CA25 .6 쨦쨧쨨 CA2A-CA46 3131-318E 쩇쩈쩉쩊쩋쩎쩏쩑쩒쩓쩕쩖쩗쩘쩙쩚쩛쩞쩢쩣쩤쩥쩦쩧쩩
    쩪 .6 CA6B-CA7C 쩾쩿쪀쪁쪂쪃쪅쪆 .6 CA87-CA97 CA99-CAA7 2170-2179 .5 2160-2169 .7 391-3A1 ΣΤΥΦΧΨΩ .8 3B1-3C1
    στυφχψω .6 CAA8-CABB 쪾쪿쫁쫂쫃쫅 .6 쫆쫇쫈쫉쫊쫋쫎쫐쫒쫔쫕쫖쫗쫚쫛쫜쫝쫞쫟쫡쫢쫣쫤쫥쫦쫧 .6 쫨쫩쫪쫫쫭쫮쫯
    쫰쫱쫲쫳 CAF5-CB07 쬉쬊─│┌┐┘└├┬┤┴┼━┃┏┓┛┗┣┳┫┻╋┠┯┨┷┿┝┰┥┸╂┒┑┚┙┖┕┎┍┞┟┡┢┦┧┩┪┭┮┱┲┵┶┹┺┽┾╀╁ 2543-254A .1A 쬋쬌쬍쬎쬏
    쬑쬒쬓쬕쬖쬗쬙쬚쬛쬜쬝쬞쬟 CB22-CB29 .6 CB2A-CB40 쭂쭃쭄 .6 쭅쭆쭇쭊쭋쭍쭎쭏쭑쭒쭓쭔쭕쭖쭗쭚쭛쭜쭞쭟쭠쭡쭢쭣
    CB65-CB6C ㎕㎖㎗ℓ㎘㏄㎣㎤㎥㎦ 3399-33A2 ㏊㎍㎎㎏㏏㎈㎉㏈㎧㎨ 33B0-33B9 ㎀㎁㎂㎃㎄㎺㎻㎼㎽㎾㎿㎐㎑㎒㎓㎔Ω㏀㏁
    ㎊㎋㎌㏖㏅㎭㎮㎯㏛㎩㎪㎫㎬㏝㏐㏓㏃㏉㏜㏆ .F CB6D-CB77 CB7A-CB88 .6 CB89-CB9B 쮝쮞쮟쮠쮡쮢쮣 .6 CBA4-CBB7
    CBB9-CBC4 ÆÐªĦ .1 Ĳ .1 ĿŁØŒºÞŦŊ .1 3260-327B 24D0-24E9 2460-246E ½⅓⅔¼¾⅛⅜⅝⅞ CBC5-CBD3 CBD5-CBDF .6 쯠쯡쯢쯣쯥
    쯦쯨 CBEA-CBFC .6 CBFD-CC0B 찎찏찑찒찓찕찖찗찘찙찚찛찞찟찠찣찤æđðħıĳĸŀłøœßþŧŋŉ 3200-321B 249C-24B5 2474-2482
    ¹²³⁴ⁿ₁₂₃₄찥찦찪찫찭찯찱찲찳찴찵찶찷찺찿챀챁챂챃챆챇챉챊챋챍챎 .6 챏챐챑챒챓챖챚챛챜챝챞챟챡챢챣챥챧챩챪챫챬
    챭챮챯챱챲 .6 챳챴 CC76-CC93 3041-3093 .B 첔첕첖첗첚첛첝첞첟첡첢첣첤첥첦첧첪첮첯첰첱첲첳첶첷첹 .6 첺첻첽첾첿
    쳀쳁쳂쳃쳆쳈쳊쳋쳌쳍쳎쳏쳑쳒쳓쳕쳖쳗쳘쳙쳚 .6 CCDB-CCE3 쳥쳦쳧쳨쳩쳪쳫쳭쳮쳯 CCF1-CCFD 30A1-30F6 .8 쳾쳿촀촂
    촃촄촅촆촇촊촋촍촎촏촑촒촓촔촕촖촗촚촜촞촟촠 .6 촡촢촣촥촦촧촩촪촫 CD2D-CD38 촺촻촼촽촾 .6 CD3F-CD5B 쵝쵞쵟А
    БВГДЕЁ 416-42F .F абвгдеё 436-44F .D 쵡쵢쵣쵥쵦쵧쵨쵩쵪쵫쵮쵰쵲쵳쵴쵵쵶쵷 CD79-CD80 .6 춁춂춃춄춅춆춇
    CD89-CD93 춖춗춙춚춛춝춞춟 .6 춠춡춢춣춦춨춪춫춬춭춮춯 CDB1-CDC3 췅 .5E 췆췇췈췉췊췋췍췎췏 CDD1-CDE1 .6 췢췣
    췤췥췦췧췩췪췫췭췮췯췱췲췳췴췵췶췷췺췼췾췿츀츁츂 .6 츃츅츆츇츉츊츋츍츎츏츐츑츒츓츕츖츗츘츚츛츜츝츞츟츢츣츥츦
    츧츩츪츫 .5E 츬츭츮츯츲츴 CE36-CE49 .6 CE4A-CE57 칚칛칝칞칢칣칤칥칦칧칪칬 .6 칮칯칰칱칲칳칶칷칹칺칻칽칾칿캀
    캁캂캃캆캈캊캋캌캍캎캏캒캓캕캖캗캙 .5E 캚캛캜캝캞캟캢캦캧캨캩캪캫 CEAE-CEBA .6 캻캼캽캾캿컀 CEC2-CED5 .6
    CED6-CEE3 컦컧컩컪컭컮컯컰컱컲컳컶컺컻컼컽컾컿가각간갇갈갉갊 AC10-AC17 같갚갛개객갠갤갬갭갯갰갱갸갹갼걀걋걍
    걔걘걜거걱건걷걸걺검겁것겄겅겆겉겊겋게겐겔겜겝겟겠겡겨격겪견겯결겸겹겻겼경곁계곈곌곕곗고곡곤곧골곪곬곯곰곱곳
    공곶과곽관괄괆켂켃켅켆켇켉켊켋켌켍켎켏켒켔켖켗켘켙켚켛켝켞켟켡켢켣 .6 켥켦켧켨켩켪켫켮켲켳켴켵켶켷 CF39-CF44
    .6 CF45-CF53 콖콗콙콚콛콝콞콟콠콡콢콣콦콨콪콫콬괌괍괏광괘괜괠괩괬괭괴괵괸괼굄굅굇굉교굔굘굡굣구국군굳굴굵굶
    굻굼굽굿궁궂궈궉권궐궜궝궤궷귀귁귄귈귐귑귓규균귤그극근귿글긁금급긋긍긔기긱긴긷길긺김깁깃깅깆깊까깍깎깐깔깖깜
    깝깟깠깡깥깨깩깬깰깸콭콮콯콲콳콵콶콷콹콺콻콼콽콾콿쾁쾂쾃쾄쾆쾇쾈쾉쾊쾋쾍 .6 CF8E-CFA0 쾢쾣쾤쾥쾦쾧쾩 .6 쾪쾫
    쾬쾭쾮쾯 CFB1-CFC3 쿅쿆쿇쿈쿉쿊쿋깹깻깼깽꺄꺅꺌꺼꺽꺾껀껄껌껍껏껐껑께껙껜껨껫껭껴껸껼꼇꼈꼍꼐꼬꼭꼰꼲꼴꼼꼽
    꼿꽁꽂꽃꽈꽉꽐꽜꽝꽤꽥꽹꾀꾄꾈꾐꾑꾕꾜꾸꾹꾼꿀꿇꿈꿉꿋꿍꿎꿔꿜꿨꿩꿰꿱꿴꿸뀀뀁뀄뀌뀐뀔뀜뀝뀨끄끅끈끊끌끎끓끔
    끕끗끙 CFCC-CFDF 쿢쿣쿥쿦쿧쿩 .6 쿪쿫쿬쿭쿮쿯쿲쿴쿶쿷쿸쿹쿺쿻쿽쿾쿿퀁퀂퀃퀅퀆퀇퀈퀉퀊 .6 퀋퀌퀍퀎퀏퀐퀒퀓퀔
    퀕퀖퀗 D019-D02C 끝끼끽낀낄낌낍낏낑나낙낚난낟날낡낢남납낫났낭낮낯낱낳내낵낸낼냄냅냇냈냉냐냑냔냘냠냥너넉넋넌
    널넒넓넘넙넛넜넝넣네넥넨넬넴넵넷넸넹녀녁년녈념녑녔녕녘녜녠노녹논놀놂놈놉놋농높놓놔놘놜놨뇌뇐뇔뇜뇝퀮퀯퀰퀱퀲
    퀳퀶퀷퀹퀺퀻퀽퀾퀿큀큁큂큃큆큈큊큋큌큍큎큏 .6 큑큒큓큕큖큗큙큚큛큜큝큞큟 D061-D06B 큮큯 .6 큱큲큳큵큶큷큸큹
    큺큻큾큿킀 D082-D094 뇟뇨뇩뇬뇰뇹뇻뇽누눅눈눋눌눔눕눗눙눠눴눼뉘뉜뉠뉨뉩뉴뉵뉼늄늅늉느늑는늘늙늚늠늡늣능늦늪
    늬늰늴니닉닌닐닒님닙닛닝닢다닥닦단닫달닭닮닯닳담답닷닸당닺닻닿대댁댄댈댐댑댓댔댕댜더덕덖던덛덜덞덟덤덥
    D095-D0A3 킦킧킩킪킫킭킮킯킰킱킲 .6 킳킶킸킺킻킼킽킾킿탂탃탅탆탇탊탋탌탍탎탏탒탖탗탘탙탚 .6 탛탞탟탡탢탣탥탦
    탧탨탩탪탫탮탲탳탴탵탶탷 D0F9-D104 덧덩덫덮데덱덴델뎀뎁뎃뎄뎅뎌뎐뎔뎠뎡뎨뎬도독돈돋돌돎돐돔돕돗동돛돝돠돤돨
    돼됐되된될됨됩됫됴두둑둔둘둠둡둣둥둬뒀뒈뒝뒤뒨뒬뒵뒷뒹듀듄듈듐듕드득든듣들듦듬듭듯등듸디딕딘딛딜딤딥딧딨딩딪
    따딱딴딸 D105-D10C D10E-D11F .6 D120-D12F 턲턳턵턶턷턹턻턼턽턾 .6 턿텂텆텇텈텉텊텋텎텏텑텒텓텕텖텗텘텙텚텛텞
    텠텢텣텤텥텦텧텩텪텫텭땀땁땃땄땅땋때땍땐땔땜땝땟땠땡떠떡떤떨떪떫떰떱떳떴떵떻떼떽뗀뗄뗌뗍뗏뗐뗑뗘뗬또똑똔똘똥
    똬똴뙈뙤뙨뚜뚝뚠뚤뚫뚬뚱뛔뛰뛴뛸뜀뜁뜅뜨뜩뜬뜯뜰뜸뜹뜻띄띈띌띔띕띠띤띨띰띱띳띵라락란랄람랍랏랐랑랒랖랗
    D16E-D17B 텽텾텿톀톁톂톃톅톆톇톉톊 .6 D18B-D19F 톢톣톥톦톧 .6 톩톪톫톬톭톮톯톲톴톶톷톸톹톻톽톾톿 D1C1-D1CF
    래랙랜랠램랩랫랬랭랴략랸럇량러럭런럴럼럽럿렀렁렇레렉렌렐렘렙렛렝려력련렬렴렵렷렸령례롄롑롓로록론롤롬롭롯롱롸
    롼뢍뢨뢰뢴뢸룀룁룃룅료룐룔룝룟룡루룩룬룰룸룹룻룽뤄뤘뤠뤼뤽륀륄륌륏륑류륙륜률륨륩 D1D0-D1D7 D1D9-D1EA .6
    D1EB-D1F3 퇵퇶퇷 D1F9-D206 .6 툈툊툋툌툍툎툏 D211-D229 륫륭르륵른를름릅릇릉릊릍릎리릭린릴림립릿링마막만많맏
    말맑맒맘맙맛망맞맡맣매맥맨맬맴맵맷맸맹맺먀먁먈먕머먹먼멀멂멈멉멋멍멎멓메멕멘멜멤멥멧멨멩며멱면멸몃몄명몇몌모
    목몫몬몰몲몸몹못몽뫄뫈뫘뫙뫼툪툫툮툯툱툲툳툵툶툷툸툹툺툻툾퉀퉂퉃퉄퉅퉆퉇퉉퉊퉋퉌 .6 D24D-D25B 퉝퉞퉟퉠퉡퉢퉣
    퉥퉦퉧퉨 .6 D269-D27F 튂튃튅튆튇튉튊튋튌묀묄묍묏묑묘묜묠묩묫무묵묶문묻물묽묾뭄뭅뭇뭉뭍뭏뭐뭔뭘뭡뭣뭬뮈뮌뮐뮤
    뮨뮬뮴뮷므믄믈믐믓미믹민믿밀밂밈밉밋밌밍및밑바박밖밗반받발밝밞밟밤밥밧방밭배백밴밸뱀뱁뱃뱄뱅뱉뱌뱍뱐뱝버벅번
    벋벌벎범법벗튍튎튏튒튓튔튖튗튘튙튚튛튝튞튟튡튢튣튥튦튧튨튩튪튫튭 .6 튮튯튰튲튳튴튵튶튷튺튻튽튾틁틃틄틅틆틇틊
    틌틍틎틏틐틑 .6 틒틓틕틖틗틙틚틛틝틞틟틠틡틢틣 D2E6-D2EF 틲틳틵틶틷틹틺벙벚베벡벤벧벨벰벱벳벴벵벼벽변별볍볏
    볐병볕볘볜보복볶본볼봄봅봇봉봐봔봤봬뵀뵈뵉뵌뵐뵘뵙뵤뵨부북분붇불붉붊붐붑붓붕붙붚붜붤붰붸뷔뷕뷘뷜뷩뷰뷴뷸븀븃
    븅브븍븐블븜븝븟비빅빈빌빎빔빕빗빙빚빛빠빡빤틻틼틽틾틿팂팄팆팇팈팉팊팋팏팑팒팓팕팗팘팙팚팛팞팢팣 .6 팤팦팧팪
    팫팭팮팯팱팲팳팴팵팶팷팺팾팿퍀퍁퍂퍃퍆퍇퍈퍉 .6 D34A-D369 빨빪빰빱빳빴빵빻빼빽뺀뺄뺌뺍뺏뺐뺑뺘뺙뺨뻐뻑뻔뻗뻘
    뻠뻣뻤뻥뻬뼁뼈뼉뼘뼙뼛뼜뼝뽀뽁뽄뽈뽐뽑뽕뾔뾰뿅뿌뿍뿐뿔뿜뿟뿡쀼쁑쁘쁜쁠쁨쁩삐삑삔삘삠삡삣삥사삭삯산삳살삵삶삼
    삽삿샀상샅새색샌샐샘샙샛샜생샤 D36A-D37B 퍾퍿펁펂펃펅펆펇 .6 펈펉펊펋펎펒펓펔펕펖펗펚펛펝펞펟펡펢펣펤펥펦펧
    펪펬펮 .6 펯펰펱펲펳펵펶펷펹펺펻펽펾펿폀폁폂폃폆폇폊폋폌폍폎폏폑폒폓폔폕폖샥샨샬샴샵샷샹섀섄섈섐섕서석섞섟선
    섣설섦섧섬섭섯섰성섶세섹센셀셈셉셋셌셍셔셕션셜셤셥셧셨셩셰셴셸솅소속솎손솔솖솜솝솟송솥솨솩솬솰솽쇄쇈쇌쇔쇗쇘
    쇠쇤쇨쇰쇱쇳쇼쇽숀숄숌숍숏숑수숙순숟술숨숩숫숭폗 D3D9-D3E0 폢 D3E4-D3EB 폮폯폱폲폳폵폶폷 .6 폸폹폺폻폾퐀퐂퐃
    퐄퐅퐆퐇 D409-D416 .6 퐗퐘퐙퐚퐛퐜 D41E-D437 숯숱숲숴쉈쉐쉑쉔쉘쉠쉥쉬쉭쉰쉴쉼쉽쉿슁슈슉슐슘슛슝스슥슨슬슭슴
    습슷승시식신싣실싫심십싯싱싶싸싹싻싼쌀쌈쌉쌌쌍쌓쌔쌕쌘쌜쌤쌥쌨쌩썅써썩썬썰썲썸썹썼썽쎄쎈쎌쏀쏘쏙쏜쏟쏠쏢쏨쏩
    쏭쏴쏵쏸쐈쐐쐤쐬쐰 D438-D43F 푁푂푃 D445-D453 .6 D454-D45B 푝푞푟푡푢푣 D465-D46C 푮푰푱푲 .6 푳푴푵푶푷푺푻
    푽푾풁풃풄풅풆풇풊풌풎풏풐풑풒풓 D495-D49D 쐴쐼쐽쑈쑤쑥쑨쑬쑴쑵쑹쒀쒔쒜쒸쒼쓩쓰쓱쓴쓸쓺쓿씀씁씌씐씔씜씨씩씬
    씰씸씹씻씽아악안앉않알앍앎앓암압앗았앙앝앞애액앤앨앰앱앳앴앵야약얀얄얇얌얍얏양얕얗얘얜얠얩어억언얹얻얼얽얾엄
    업없엇었엉엊엌엎 D49E-D4A8 D4AA-D4B8 .6 D4B9-D4CB 퓍퓎퓏퓑퓒퓓퓕 .6 퓖퓗퓘퓙퓚퓛퓝퓞 D4E0-D4E7 퓩퓪퓫퓭퓮퓯
    퓱퓲퓳퓴퓵퓶퓷퓹퓺퓼에엑엔엘엠엡엣엥여역엮연열엶엷염엽엾엿였영옅옆옇예옌옐옘옙옛옜오옥온올옭옮옰옳옴옵옷옹옻
    와왁완왈왐왑왓왔왕왜왝왠왬왯왱외왹왼욀욈욉욋욍요욕욘욜욤욥욧용우욱운울욹욺움웁웃웅워웍원월웜웝웠웡웨퓾퓿픀픁
    픂픃픅픆픇픉픊픋픍픎픏픐픑픒픓픖픘픙픚픛픜픝 .6 D51E-D537 .6 픸픹픺픻픾픿핁핂핃핅핆핇핈핉핊핋핎핐핒핓핔핕핖
    핗핚핛핝핞핟핡핢핣웩웬웰웸웹웽위윅윈윌윔윕윗윙유육윤율윰윱윳융윷으윽은을읊음읍읏 C751-C758 읜읠읨읫이익인일
    읽읾잃임입잇있잉잊잎자작잔잖잗잘잚잠잡잣잤장잦재잭잰잴잼잽잿쟀쟁쟈쟉쟌쟎쟐쟘쟝쟤쟨쟬저적전절젊핤핦핧핪핬핮핯
    핰핱핲핳핶핷핹핺핻핽핾핿햀햁햂햃햆햊햋 .6 햌햍햎햏 D591-D5A4 햦햧 .6 D5A8-D5C7 점접젓정젖제젝젠젤젬젭젯젱져
    젼졀졈졉졌졍졔조족존졸졺좀좁좃종좆좇좋좌좍좔좝좟좡좨좼좽죄죈죌죔죕죗죙죠죡죤죵주죽준줄줅줆줌줍줏중줘줬줴쥐쥑
    쥔쥘쥠쥡쥣쥬쥰쥴쥼즈즉즌즐즘즙즛증지직진짇질짊짐집짓헊헋헍헎헏헑헓헔헕헖헗헚헜헞헟헠헡헢헣헦헧헩헪헫헭헮 .6
    헯헰헱헲헳헶헸헺헻헼헽헾헿혂혃혅혆혇혉혊혋혌혍혎혏혒 .6 혖혗혘혙혚혛혝혞혟혡혢혣 D625-D62C D62E-D637 혺혻징
    짖짙짚짜짝짠짢짤짧짬짭짯짰짱째짹짼쨀쨈쨉쨋쨌쨍쨔쨘쨩쩌쩍쩐쩔쩜쩝쩟쩠쩡쩨쩽쪄쪘쪼쪽쫀쫄쫌쫍쫏쫑쫓쫘쫙쫠쫬쫴쬈
    쬐쬔쬘쬠쬡쭁쭈쭉쭌쭐쭘쭙쭝쭤쭸쭹쮜쮸쯔쯤쯧쯩찌찍찐찔찜찝찡찢찧차착찬찮찰참찹찻혽혾혿홁홂홃홄홆홇홊홌홎홏홐홒
    홓홖홗홙홚홛홝홞홟홠홡 .6 홢홣홤홥홦홨홪홫홬홭홮홯홲홳 D675-D680 .6 횁횂횄횆횇횈횉횊횋횎횏횑횒횓 D695-D69C
    횞횠횢횣횤횥횦횧횩횪찼창찾채책챈챌챔챕챗챘챙챠챤챦챨챰챵처척천철첨첩첫첬청체첵첸첼쳄쳅쳇쳉쳐쳔쳤쳬쳰촁초촉촌
    촐촘촙촛총촤촨촬촹최쵠쵤쵬쵭쵯쵱쵸춈추축춘출춤춥춧충춰췄췌췐취췬췰췸췹췻췽츄츈츌츔츙츠측츤츨츰츱츳층횫횭횮횯
    D6B1-D6B8 횺 D6BC-D6C3 훆훇훉훊훋 .6 훍훎훏훐훒훓훕훖훘훚훛훜훝훞훟훡훢훣훥훦훧훩훪훫훬훭 .6 훮훯훱훲훳훴훶
    훷훸훹훺훻훾훿휁휂휃 D705-D710 휒휓휔치칙친칟칠칡침칩칫칭카칵칸칼캄캅캇캉캐캑캔캘캠캡캣캤캥캬캭컁커컥컨컫컬
    컴컵컷컸컹케켁켄켈켐켑켓켕켜켠켤켬켭켯켰켱켸코콕콘콜콤콥콧콩콰콱콴콸쾀쾅쾌쾡쾨쾰쿄쿠쿡쿤쿨쿰쿱쿳쿵쿼퀀퀄퀑퀘
    퀭퀴퀵퀸퀼휕휖휗휚휛휝휞휟휡휢휣휤휥휦휧휪휬휮휯휰휱휲휳휶휷휹 .6 휺휻휽휾휿흀흁흂흃흅흆흈흊흋흌흍흎흏흒흓흕
    흚흛흜흝흞 .6 흟흢흤흦흧흨흪흫흭흮흯흱흲흳흵흶흷흸흹흺흻흾흿힀힂힃힄힅힆힇힊힋큄큅큇큉큐큔큘큠크큭큰클큼큽킁
    키킥킨킬킴킵킷킹타탁탄탈탉탐탑탓탔탕태택탠탤탬탭탯탰탱탸턍터턱턴털턺텀텁텃텄텅테텍텐텔템텝텟텡텨텬텼톄톈토톡
    톤톨톰톱톳통톺톼퇀퇘퇴퇸툇툉툐투툭툰툴툼툽툿퉁퉈퉜힍힎힏힑힒힓힔힕힖힗힚힜힞힟힠힡힢힣 .4E 퉤튀튁튄튈튐튑튕
    튜튠튤튬튱트특튼튿틀틂틈틉틋틔틘틜틤틥티틱틴틸팀팁팃팅파팍팎판팔팖팜팝팟팠팡팥패팩팬팰팸팹팻팼팽퍄퍅퍼퍽펀펄
    펌펍펏펐펑페펙펜펠펨펩펫펭펴편펼폄폅폈평폐폘폡폣포폭폰폴폼폽폿퐁 .60 퐈퐝푀푄표푠푤푭푯푸푹푼푿풀풂품풉풋풍
    풔풩퓌퓐퓔퓜퓟퓨퓬퓰퓸퓻퓽프픈플픔픕픗피픽핀필핌핍핏핑하학한할핥함합핫항해핵핸핼햄햅햇했행햐향허헉헌헐헒험헙
    헛헝헤헥헨헬헴헵헷헹혀혁현혈혐협혓혔형혜혠 .60 혤혭호혹혼홀홅홈홉홋홍홑화확환활홧황홰홱홴횃횅회획횐횔횝횟횡
    효횬횰횹횻후훅훈훌훑훔훗훙훠훤훨훰훵훼훽휀휄휑휘휙휜휠휨휩휫휭휴휵휸휼흄흇흉흐흑흔흖흗흘흙흠흡흣흥흩희흰흴흼
    흽힁히힉힌힐힘힙힛힝 .11E 伽佳假價加可呵哥嘉嫁家暇架枷柯歌珂痂稼苛茄街袈訶賈跏軻迦駕刻却各恪慤殼珏脚覺角閣侃
    刊墾奸姦干幹懇揀杆柬桿澗癎看磵稈竿簡肝艮艱諫間乫喝曷渴碣竭葛褐蝎鞨勘坎堪嵌感憾戡敢柑橄減甘疳監瞰紺邯鑑鑒龕
    .60 匣岬甲胛鉀閘剛堈姜岡崗康强彊慷江畺疆糠絳綱羌腔舡薑襁講鋼降鱇介价個凱塏愷愾慨改槪漑疥皆盖箇芥蓋豈鎧開喀客
    坑更粳羹醵倨去居巨拒据據擧渠炬祛距踞車遽鉅鋸乾件健巾建愆楗腱虔蹇鍵騫乞傑杰桀儉劍劒檢 .60 瞼鈐黔劫怯迲偈憩揭
    擊格檄激膈覡隔堅牽犬甄絹繭肩見譴遣鵑抉決潔結缺訣兼慊箝謙鉗鎌京俓倞傾儆勁勍卿坰境庚徑慶憬擎敬景暻更梗涇炅烱璟
    璥瓊痙硬磬竟競絅經耕耿脛莖警輕逕鏡頃頸驚鯨係啓堺契季屆悸戒桂械 .60 棨溪界癸磎稽系繫繼計誡谿階鷄古叩告呱固姑
    孤尻庫拷攷故敲暠枯槁沽痼皐睾稿羔考股膏苦苽菰藁蠱袴誥賈辜錮雇顧高鼓哭斛曲梏穀谷鵠困坤崑昆梱棍滾琨袞鯤汨滑骨供
    公共功孔工恐恭拱控攻珙空蚣貢鞏串寡戈果瓜 .60 科菓誇課跨過鍋顆廓槨藿郭串冠官寬慣棺款灌琯瓘管罐菅觀貫關館刮恝
    括适侊光匡壙廣曠洸炚狂珖筐胱鑛卦掛罫乖傀塊壞怪愧拐槐魁宏紘肱轟交僑咬喬嬌嶠巧攪敎校橋狡皎矯絞翹膠蕎蛟較轎郊餃
    驕鮫丘久九仇俱具勾 .60 區口句咎嘔坵垢寇嶇廐懼拘救枸柩構歐毆毬求溝灸狗玖球瞿矩究絿耉臼舅舊苟衢謳購軀逑邱鉤銶
    駒驅鳩鷗龜國局菊鞠鞫麴君窘群裙軍郡堀屈掘窟宮弓穹窮芎躬倦券勸卷圈拳捲權淃眷厥獗蕨蹶闕机櫃潰詭軌饋句晷歸貴 .60
    鬼龜叫圭奎揆槻珪硅窺竅糾葵規赳逵閨勻均畇筠菌鈞龜橘克剋劇戟棘極隙僅劤勤懃斤根槿瑾筋芹菫覲謹近饉契今妗擒昑檎琴
    禁禽芩衾衿襟金錦伋及急扱汲級給亘兢矜肯企伎其冀嗜器圻基埼夔奇妓寄岐崎己幾忌技旗旣 .60 朞期杞棋棄機欺氣汽沂淇
    玘琦琪璂璣畸畿碁磯祁祇祈祺箕紀綺羈耆耭肌記譏豈起錡錤飢饑騎騏驥麒緊佶吉拮桔金喫儺喇奈娜懦懶拏拿癩羅蘿螺裸邏那
    樂洛烙珞落諾酪駱亂卵暖欄煖爛蘭難鸞捏捺南嵐枏楠湳濫男藍襤拉 .60 納臘蠟衲囊娘廊朗浪狼郎乃來內奈柰耐冷女年撚秊
    念恬拈捻寧寗努勞奴弩怒擄櫓爐瑙盧老蘆虜路露駑 F939-F943 濃籠聾膿農惱牢磊腦賂雷尿 F94A-F951 嫩訥杻紐勒肋凜凌稜
    綾能菱陵尼泥匿溺多茶 .60 丹亶但單團壇彖斷旦檀段湍短端簞緞蛋袒鄲鍛撻澾獺疸達啖坍憺擔曇淡湛潭澹痰聃膽蕁覃談譚
    錟沓畓答踏遝唐堂塘幢戇撞棠當糖螳黨代垈坮大對岱帶待戴擡玳臺袋貸隊黛宅德悳倒刀到圖堵塗導屠島嶋度徒悼挑掉搗桃
    .60 棹櫂淘渡滔濤燾盜睹禱稻萄覩賭跳蹈逃途道都鍍陶韜毒瀆牘犢獨督禿篤纛讀墩惇敦旽暾沌焞燉豚頓乭突仝冬凍動同憧東
    桐棟洞潼疼瞳童胴董銅兜斗杜枓痘竇荳讀豆逗頭屯臀芚遁遯鈍得嶝橙燈登等藤謄鄧騰喇懶拏癩羅 .60 蘿螺裸邏樂洛烙珞絡
    落諾酪駱丹亂卵欄欒瀾爛蘭鸞剌辣嵐擥攬欖濫籃纜藍襤覽拉臘蠟廊朗浪狼琅瑯螂郞來崍徠萊冷掠略亮倆兩凉梁樑粮粱糧良諒
    輛量侶儷勵呂廬慮戾旅櫚濾礪藜蠣閭驢驪麗黎力曆歷瀝礫轢靂憐戀攣漣 .60 煉璉練聯蓮輦連鍊冽列劣洌烈裂廉斂殮濂簾獵
    令伶囹寧岺嶺怜玲笭羚翎聆逞鈴零靈領齡例澧禮醴隷勞怒撈擄櫓潞瀘爐盧老蘆虜路輅露魯鷺鹵碌祿綠菉錄鹿麓論壟弄朧瀧瓏
    籠聾儡瀨牢磊賂賚賴雷了僚寮廖料燎療瞭聊蓼 .60 遼鬧龍壘婁屢樓淚漏瘻累縷蔞褸鏤陋劉旒柳榴流溜瀏琉瑠留瘤硫謬類六
    戮陸侖倫崙淪綸輪律慄栗率隆勒肋凜凌楞稜綾菱陵俚利厘吏唎履悧李梨浬犁狸理璃異痢籬罹羸莉裏裡里釐離鯉吝潾燐璘藺躪
    隣鱗麟林淋琳臨霖砬 .60 立笠粒摩瑪痲碼磨馬魔麻寞幕漠膜莫邈万卍娩巒彎慢挽晩曼滿漫灣瞞萬蔓蠻輓饅鰻唜抹末沫茉襪
    靺亡妄忘忙望網罔芒茫莽輞邙埋妹媒寐昧枚梅每煤罵買賣邁魅脈貊陌驀麥孟氓猛盲盟萌冪覓免冕勉棉沔眄眠綿緬面麵滅 .60
    蔑冥名命明暝椧溟皿瞑茗蓂螟酩銘鳴袂侮冒募姆帽慕摸摹暮某模母毛牟牡瑁眸矛耗芼茅謀謨貌木沐牧目睦穆鶩歿沒夢朦蒙卯
    墓妙廟描昴杳渺猫竗苗錨務巫憮懋戊拇撫无楙武毋無珷畝繆舞茂蕪誣貿霧鵡墨默們刎吻問文 .60 汶紊紋聞蚊門雯勿沕物味
    媚尾嵋彌微未梶楣渼湄眉米美薇謎迷靡黴岷悶愍憫敏旻旼民泯玟珉緡閔密蜜謐剝博拍搏撲朴樸泊珀璞箔粕縛膊舶薄迫雹駁伴
    半反叛拌搬攀斑槃泮潘班畔瘢盤盼磐磻礬絆般蟠返頒飯勃拔撥渤潑 .60 發跋醱鉢髮魃倣傍坊妨尨幇彷房放方旁昉枋榜滂磅
    紡肪膀舫芳蒡蚌訪謗邦防龐倍俳北培徘拜排杯湃焙盃背胚裴裵褙賠輩配陪伯佰帛柏栢白百魄幡樊煩燔番磻繁蕃藩飜伐筏罰閥
    凡帆梵氾汎泛犯範范法琺僻劈壁擘檗璧癖 .60 碧蘗闢霹便卞弁變辨辯邊別瞥鱉鼈丙倂兵屛幷昞昺柄棅炳甁病秉竝輧餠騈保
    堡報寶普步洑湺潽珤甫菩補褓譜輔伏僕匐卜宓復服福腹茯蔔複覆輹輻馥鰒本乶俸奉封峯峰捧棒烽熢琫縫蓬蜂逢鋒鳳不付俯傅
    剖副否咐埠夫婦 .60 孚孵富府復扶敷斧浮溥父符簿缶腐腑膚艀芙莩訃負賦賻赴趺部釜阜附駙鳧北分吩噴墳奔奮忿憤扮昐汾
    焚盆粉糞紛芬賁雰不佛弗彿拂崩朋棚硼繃鵬丕備匕匪卑妃婢庇悲憊扉批斐枇榧比毖毗毘沸泌琵痺砒碑秕秘粃緋翡肥 .60 脾
    臂菲蜚裨誹譬費鄙非飛鼻嚬嬪彬斌檳殯浜濱瀕牝玭貧賓頻憑氷聘騁乍事些仕伺似使俟僿史司唆嗣四士奢娑寫寺射巳師徙思捨
    斜斯柶査梭死沙泗渣瀉獅砂社祀祠私篩紗絲肆舍莎蓑蛇裟詐詞謝賜赦辭邪飼駟麝削數朔索 .60 傘刪山散汕珊産疝算蒜酸霰
    乷撒殺煞薩三參杉森渗芟蔘衫揷澁鈒颯上傷像償商喪嘗孀尙峠常床庠廂想桑橡湘爽牀狀相祥箱翔裳觴詳象賞霜塞璽賽嗇塞穡
    索色牲生甥省笙墅壻嶼序庶徐恕抒捿敍暑曙書栖棲犀瑞筮絮緖署 .60 胥舒薯西誓逝鋤黍鼠夕奭席惜昔晳析汐淅潟石碩蓆釋
    錫仙僊先善嬋宣扇敾旋渲煽琁瑄璇璿癬禪線繕羨腺膳船蘚蟬詵跣選銑鐥饍鮮卨屑楔泄洩渫舌薛褻設說雪齧剡暹殲纖蟾贍閃陝
    攝涉燮葉城姓宬性惺成星晟猩珹盛省筬 .60 聖聲腥誠醒世勢歲洗稅笹細說貰召嘯塑宵小少巢所掃搔昭梳沼消溯瀟炤燒甦疏
    疎瘙笑篠簫素紹蔬蕭蘇訴逍遡邵銷韶騷俗屬束涑粟續謖贖速孫巽損蓀遜飡率宋悚松淞訟誦送頌刷殺灑碎鎖衰釗修受嗽囚垂壽
    嫂守岫峀帥愁 .60 戍手授搜收數樹殊水洙漱燧狩獸琇璲瘦睡秀穗竪粹綏綬繡羞脩茱蒐蓚藪袖誰讐輸遂邃酬銖銹隋隧隨雖需
    須首髓鬚叔塾夙孰宿淑潚熟琡璹肅菽巡徇循恂旬栒楯橓殉洵淳珣盾瞬筍純脣舜荀蓴蕣詢諄醇錞順馴戌術述鉥崇崧 .60 嵩瑟
    膝蝨濕拾習褶襲丞乘僧勝升承昇繩蠅陞侍匙嘶始媤尸屎屍市弑恃施是時枾柴猜矢示翅蒔蓍視試詩諡豕豺埴寔式息拭植殖湜熄
    篒蝕識軾食飾伸侁信呻娠宸愼新晨燼申神紳腎臣莘薪藎蜃訊身辛辰迅失室實悉審尋心沁 .60 沈深瀋甚芯諶什十拾雙氏亞俄
    兒啞娥峨我牙芽莪蛾衙訝阿雅餓鴉鵝堊岳嶽幄惡愕握樂渥鄂鍔顎鰐齷安岸按晏案眼雁鞍顔鮟斡謁軋閼唵岩巖庵暗癌菴闇壓押
    狎鴨仰央怏昻殃秧鴦厓哀埃崖愛曖涯碍艾隘靄厄扼掖液縊腋額 .60 櫻罌鶯鸚也倻冶夜惹揶椰爺耶若野弱掠略約若葯蒻藥躍
    亮佯兩凉壤孃恙揚攘敭暘梁楊樣洋瀁煬痒瘍禳穰糧羊良襄諒讓釀陽量養圄御於漁瘀禦語馭魚齬億憶抑檍臆偃堰彦焉言諺孼蘖
    俺儼嚴奄掩淹嶪業円予余勵呂女如廬 .60 旅歟汝濾璵礖礪與艅茹輿轝閭餘驪麗黎亦力域役易曆歷疫繹譯轢逆驛嚥堧姸娟宴
    年延憐戀捐挻撚椽沇沿涎涓淵演漣烟然煙煉燃燕璉硏硯秊筵緣練縯聯衍軟輦蓮連鉛鍊鳶列劣咽悅涅烈熱裂說閱厭廉念捻染殮
    炎焰琰艶苒 .60 簾閻髥鹽曄獵燁葉令囹塋寧嶺嶸影怜映暎楹榮永泳渶潁濚瀛瀯煐營獰玲瑛瑩瓔盈穎纓羚聆英詠迎鈴鍈零霙
    靈領乂倪例刈叡曳汭濊猊睿穢芮藝蘂禮裔詣譽豫醴銳隸霓預五伍俉傲午吾吳嗚塢墺奧娛寤悟惡懊敖旿晤梧汚澳 .60 烏熬獒
    筽蜈誤鰲鼇屋沃獄玉鈺溫瑥瘟穩縕蘊兀壅擁瓮甕癰翁邕雍饔渦瓦窩窪臥蛙蝸訛婉完宛梡椀浣玩琓琬碗緩翫脘腕莞豌阮頑曰往
    旺枉汪王倭娃歪矮外嵬巍猥畏了僚僥凹堯夭妖姚寥寮尿嶢拗搖撓擾料曜樂橈燎燿瑤療 .60 窈窯繇繞耀腰蓼蟯要謠遙遼邀饒
    慾欲浴縟褥辱俑傭冗勇埇墉容庸慂榕涌湧溶熔瑢用甬聳茸蓉踊鎔鏞龍于佑偶優又友右宇寓尤愚憂旴牛玗瑀盂祐禑禹紆羽芋藕
    虞迂遇郵釪隅雨雩勖彧旭昱栯煜稶郁頊云暈橒殞澐熉耘芸蕓 .60 運隕雲韻蔚鬱亐熊雄元原員圓園垣媛嫄寃怨愿援沅洹湲源
    爰猿瑗苑袁轅遠阮院願鴛月越鉞位偉僞危圍委威尉慰暐渭爲瑋緯胃萎葦蔿蝟衛褘謂違韋魏乳侑儒兪劉唯喩孺宥幼幽庾悠惟愈
    愉揄攸有杻柔柚柳楡楢油洧流游溜 .60 濡猶猷琉瑜由留癒硫紐維臾萸裕誘諛諭踰蹂遊逾遺酉釉鍮類六堉戮毓肉育陸倫允奫
    尹崙淪潤玧胤贇輪鈗閏律慄栗率聿戎瀜絨融隆垠恩慇殷誾銀隱乙吟淫蔭陰音飮揖泣邑凝應膺鷹依倚儀宜意懿擬椅毅疑矣義艤
    薏蟻衣誼 .60 議醫二以伊利吏夷姨履已弛彛怡易李梨泥爾珥理異痍痢移罹而耳肄苡荑裏裡貽貳邇里離飴餌匿溺瀷益翊翌翼
    謚人仁刃印吝咽因姻寅引忍湮燐璘絪茵藺蚓認隣靭靷鱗麟一佚佾壹日溢逸鎰馹任壬妊姙恁林淋稔臨荏賃入卄 .60 立笠粒仍
    剩孕芿仔刺咨姉姿子字孜恣慈滋炙煮玆瓷疵磁紫者自茨蔗藉諮資雌作勺嚼斫昨灼炸爵綽芍酌雀鵲孱棧殘潺盞岑暫潛箴簪蠶雜
    丈仗匠場墻壯奬將帳庄張掌暲杖樟檣欌漿牆狀獐璋章粧腸臟臧莊葬蔣薔藏裝贓醬長 .60 障再哉在宰才材栽梓渽滓災縡裁財
    載齋齎爭箏諍錚佇低儲咀姐底抵杵楮樗沮渚狙猪疽箸紵苧菹著藷詛貯躇這邸雎齟勣吊嫡寂摘敵滴狄炙的積笛籍績翟荻謫賊赤
    跡蹟迪迹適鏑佃佺傳全典前剪塡塼奠專展廛悛戰栓殿氈澱 .60 煎琠田甸畑癲筌箋箭篆纏詮輾轉鈿銓錢鐫電顚顫餞切截折浙
    癤竊節絶占岾店漸点粘霑鮎點接摺蝶丁井亭停偵呈姃定幀庭廷征情挺政整旌晶晸柾楨檉正汀淀淨渟湞瀞炡玎珽町睛碇禎程穽
    精綎艇訂諪貞鄭酊釘鉦鋌錠霆靖 .60 靜頂鼎制劑啼堤帝弟悌提梯濟祭第臍薺製諸蹄醍除際霽題齊俎兆凋助嘲弔彫措操早晁
    曺曹朝條棗槽漕潮照燥爪璪眺祖祚租稠窕粗糟組繰肇藻蚤詔調趙躁造遭釣阻雕鳥族簇足鏃存尊卒拙猝倧宗從悰慫棕淙琮種終
    綜縱腫 .60 踪踵鍾鐘佐坐左座挫罪主住侏做姝胄呪周嗾奏宙州廚晝朱柱株注洲湊澍炷珠疇籌紂紬綢舟蛛註誅走躊輳週酎酒
    鑄駐竹粥俊儁准埈寯峻晙樽浚準濬焌畯竣蠢逡遵雋駿茁中仲衆重卽櫛楫汁葺增憎曾拯烝甑症繒蒸證贈之只 .60 咫地址志持
    指摯支旨智枝枳止池沚漬知砥祉祗紙肢脂至芝芷蜘誌識贄趾遲直稙稷織職唇嗔塵振搢晉晋桭榛殄津溱珍瑨璡畛疹盡眞瞋秦縉
    縝臻蔯袗診賑軫辰進鎭陣陳震侄叱姪嫉帙桎瓆疾秩窒膣蛭質跌迭斟朕什執潗緝輯 .60 鏶集徵懲澄且侘借叉嗟嵯差次此磋箚
    茶蹉車遮捉搾着窄錯鑿齪撰澯燦璨瓚竄簒纂粲纘讚贊鑽餐饌刹察擦札紮僭參塹慘慙懺斬站讒讖倉倡創唱娼廠彰愴敞昌昶暢槍
    滄漲猖瘡窓脹艙菖蒼債埰寀寨彩採砦綵菜蔡采釵冊柵策 .60 責凄妻悽處倜刺剔尺慽戚拓擲斥滌瘠脊蹠陟隻仟千喘天川擅泉
    淺玔穿舛薦賤踐遷釧闡阡韆凸哲喆徹撤澈綴輟轍鐵僉尖沾添甛瞻簽籤詹諂堞妾帖捷牒疊睫諜貼輒廳晴淸聽菁請靑鯖切剃替涕
    滯締諦逮遞體初剿哨憔抄招梢 .60 椒楚樵炒焦硝礁礎秒稍肖艸苕草蕉貂超酢醋醮促囑燭矗蜀觸寸忖村邨叢塚寵悤憁摠總聰
    蔥銃撮催崔最墜抽推椎楸樞湫皺秋芻萩諏趨追鄒酋醜錐錘鎚雛騶鰍丑畜祝竺筑築縮蓄蹙蹴軸逐春椿瑃出朮黜充忠沖蟲衝衷悴
    膵萃 .60 贅取吹嘴娶就炊翠聚脆臭趣醉驟鷲側仄厠惻測層侈値嗤峙幟恥梔治淄熾痔痴癡稚穉緇緻置致蚩輜雉馳齒則勅飭親
    七柒漆侵寢枕沈浸琛砧針鍼蟄秤稱快他咤唾墮妥惰打拖朶楕舵陀馱駝倬卓啄坼度托拓擢晫柝濁濯琢琸託 .60 鐸呑嘆坦彈憚
    歎灘炭綻誕奪脫探眈耽貪塔搭榻宕帑湯糖蕩兌台太怠態殆汰泰笞胎苔跆邰颱宅擇澤撑攄兎吐土討慟桶洞痛筒統通堆槌腿褪退
    頹偸套妬投透鬪慝特闖坡婆巴把播擺杷波派爬琶破罷芭跛頗判坂板版瓣販辦鈑 .60 阪八叭捌佩唄悖敗沛浿牌狽稗覇貝彭澎
    烹膨愎便偏扁片篇編翩遍鞭騙貶坪平枰萍評吠嬖幣廢弊斃肺蔽閉陛佈包匍匏咆哺圃布怖抛抱捕暴泡浦疱砲胞脯苞葡蒲袍褒逋
    鋪飽鮑幅暴曝瀑爆輻俵剽彪慓杓標漂瓢票表豹飇飄驃 .60 品稟楓諷豊風馮彼披疲皮被避陂匹弼必泌珌畢疋筆苾馝乏逼下何
    厦夏廈昰河瑕荷蝦賀遐霞鰕壑學虐謔鶴寒恨悍旱汗漢澣瀚罕翰閑閒限韓割轄函含咸啣喊檻涵緘艦銜陷鹹合哈盒蛤閤闔陜亢伉
    姮嫦巷恒抗杭桁沆港缸肛航 .60 行降項亥偕咳垓奚孩害懈楷海瀣蟹解該諧邂駭骸劾核倖幸杏荇行享向嚮珦鄕響餉饗香噓墟
    虛許憲櫶獻軒歇險驗奕爀赫革俔峴弦懸晛泫炫玄玹現眩睍絃絢縣舷衒見賢鉉顯孑穴血頁嫌俠協夾峽挾浹狹脅脇莢鋏頰亨兄刑
    型 .60 形泂滎瀅灐炯熒珩瑩荊螢衡逈邢鎣馨兮彗惠慧暳蕙蹊醯鞋乎互呼壕壺好岵弧戶扈昊晧毫浩淏湖滸澔濠濩灝狐琥瑚瓠
    皓祜糊縞胡芦葫蒿虎號蝴護豪鎬頀顥惑或酷婚昏混渾琿魂忽惚笏哄弘汞泓洪烘紅虹訌鴻化和嬅樺火畵 .60 禍禾花華話譁貨
    靴廓擴攫確碻穫丸喚奐宦幻患換歡晥桓渙煥環紈還驩鰥活滑猾豁闊凰幌徨恍惶愰慌晃晄榥況湟滉潢煌璜皇篁簧荒蝗遑隍黃匯
    回廻徊恢悔懷晦會檜淮澮灰獪繪膾茴蛔誨賄劃獲宖橫鐄哮嚆孝效斅曉梟涍淆 .60 爻肴酵驍侯候厚后吼喉嗅帿後朽煦珝逅勛
    勳塤壎焄熏燻薰訓暈薨喧暄煊萱卉喙毁彙徽揮暉煇諱輝麾休携烋畦虧恤譎鷸兇凶匈洶胸黑昕欣炘痕吃屹紇訖欠欽歆吸恰洽翕
    興僖凞喜噫囍姬嬉希憙憘戱晞曦熙熹熺犧禧稀羲詰"

end RecordFix.Text
