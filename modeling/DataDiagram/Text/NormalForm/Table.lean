/-!
# Tables for normal forms

The entries of a table are in the order of their code points.  An entry has the number of code
points before it that have none, the number of its values, and its values: each is the step from the
value at that place before, an odd number being a step down.  With one value, 32 times the number of
its code points but one is added to the number of values; with more, 32 is added for a pair.
-/

namespace DataDiagram.Text.NormalForm

def decompositionLength : Nat := 14173

/-- What the characters of identifiers are made of, abbreviated.  A range stands for characters that
are each made of one character, these being consecutive too.  A pair is what a character is made of
last: a character that can be made of others itself, and a mark. -/
def decompositionTable : String := "
p_jI:KqGbieoD[t<m7tZ_RHfR]1JvXls(OJKhn;|E(Kba]HTBW6kh/]4.Y?i%4^i#n)qK95?Q(Wpv=VPqR8yg2NF,m?~<7V9YztG
<x/>U[x.vaCoM;yNH.393J@zpBb*u]f;x9m3/td7^c@8xeJeTG+D7vyk7HwH8l%aG#|(|.vPFb,,p^B;sD.9?Tw(~QQ@(tG17kzb
82=U_WSB3lnyp.<I4ckoZfiArr|tOr%>=~.,]R3S>VbBQJUGahtyP.Wy,urMBhGgpgqHH3(o:Z+T;s]K6:rfK#>P<|#8.D|L+Xva
[!5*5Ds?u>>B%I/b?Ojp>/L5o[5m*v7Nojz/9]ABs+eSJnLs8Flq2NxT<2|]SydnmWnZ2y=G.N07N[z|p>AA=b8[pM#lIjN;yW1(
f:Kwz.Y3MT6!<SjH*C@wo:2|ThzNE0i1xpP;$h8nagt0mW|xjEAR5)f^v%.Fe8v|78k=HS%A;!c3Y/j0TR.v&;(C!sbi&4@~o5RZ
10lgT(H$*~cj5sZ2MFvN!LX!pQvdX:(%dTC!,:[%UpaQs~_[]G]UZ^r0KW95Qb30i_0g!F@zh^9Ruf|CuZb6Od;nyW!Y8Jy^+E?2
ZxZRIdmbCPfiuIlH!.vZZ#(5C&cDBn.hI4R7K;w_i;kM*HNqF0E5YcUYtsKGT@[H3[Mhp5(vt?_;SxB!+N?5%T9buaJYg_cfwBTI
FD!Eoq_JH%_A%%;1qCD(!Di5<j>TzM^8OKqW+NQV?gq2/kT[$P$%>>kSdsORN$dHA0k&JhN3~Wlr<JAl,:,O?;Q!2w4S?o5?~H]b
pl98iDIKSeE<50K6vIZ+UkNF(BTYsuIXgW&J5P%akCldiLy4enNS%3NtPJ(_oX>O*)Yx.fkq+Ca%xy#:r5WET[|pkFXc@OqoWb?J
1k1eoPAwFLh[!li?Ulptm|9[bZdla7+T%C8Z%duD8t~8@b)TmEpTJuW&XA+!wQw&$Oq~Zi?n$>ej>U].#qs=70eN5B8FogV)o$f7
Oin>U]l$|Fx>0?SInhMA92K/&LeUQ]J2!6;p4_u;AsYT@MT$KkqDA#^=71=<CwQ.E,#_o<1gNEpvS?yJ.@w+dLiJl*$Ty)thHSsm
286[&6%CsgAD@:wLE;Q_>_SiH91a2?!O#m)b3.0Vv5~k0&B.u84mEc~H3MlSouN9>g+ikDGa?,AXT]>=xyckX%>Nq#s=*:MzK~QS
Sdy6GNOzZ%f0bA*#me^_HmMdrbP(_4~=MRPlM[F@%13XRdLAc#[e8%Ic+LlCgYPv(9hammGJYt&I,9aGa,!ta7_jT6L3+Fc1Ha59
rNBcF/C0]xFl+1#@_>y?w7C.JPZ|uzQame?POG1df5WERx|=;?XO.19+QfIxj]bUYaF=X2hr_|uFU|fo*uv,g$Z,Y4F+oySf7K^a
W>*w![fGg=c>o2+=iwClyie/Dg<I/o3n8UT@&byd/.RKqVnph,l&3AiVCI]xvW!S?4*bHp%*>%Pg|O>~@|B(qnTY_h3J_+%931Q*
,!4]r|cVcLlvvMyPF/dhIo:em)pKdADz]FQu$3>kTQcqT<pNX,bO@y,LgP?(q9O0WUGnd@j1Z(9!JlxBT(fi2>|#<;6m$o>$$vVd
d*ryyAjI:;)Mozds=zQ|g~9<Qaf>8Cs..Q@8Wyo.%+aEa<d$T]O(I5lCbyUEdhR:A~/,Y0+JBca4ij?eM?vylI&EQpx4F[HQnc/_
TC|?eJX7Zc=4Fj4e|_l6#!:s>|1t<KsJ7q^l9=[yD2.+.s=HUi6kSrBqBg:Adn:]8DI_EN4tdF(P)$4]Bz4|JFGGoj+*Nto]Zk?n
5j$$qoJ>pp*%b0|*se0*Y1?:fE2f~32D+kje!whRJXAIb?M)&Sgp8DTuE^hT,^Wy!RhJ3!lF^N*9;M>pO<6)]jGNv=o!+uHuJbuG
5I_7Z*NY#m5XS6#^JLhy/+&:)v,G+jS7nEc$P$DxvB$k@M?L/Is|C%*D1%Yx[YL,nS_OT*:5#UxU~o.oAE[/>,F<2>DDsj..W9j@
B|wSxY+hWCrgEd8sWn>Y8=qv@v[B%f%F4W$T|v4%=im=$0yo_x]bmTWi0*@P00$]lm7V/Pd6gprM6Sp#T<r8:IX0~q<;&2uw.G_A
Q_$E@N?.~<o+z@%!cuZaT|beuO$~VPeO9X2=3D|R53BO#1OaXulKRfH6q9([DX[Y;=W[gTfTG,24!6%VIuYBNW<l=5%I9iIk.kL6
m5sQIT<BmP|Q5%/$mX2tsKAa3d(M$XKytN.j9K#*r~o8g_9nNgWVmv)wNDNBCJ,0XZre:65izziP[Lo@Vh3n,#YDm|4;EwS)3ueU
^Nw,TFe(#r^XNr[tjr8CY#YFxP:dOE~*/;IH!!cG<,?HS~>9UjvR8)fdENBLSkKIB34UliGlzkZyms+6SXQ/MgnSyYEarL+&Y_mu
|eEh/Ga_VK7C==n$cJQ&&p?0zc/TAsn(9Eko<O8:dfw;2u?DTTgFrd3teJvPm^xTEh&E^=LWL)xmiq.Ynj31[@=vzeeU[kD73aZR
9N&Laq@i#TR$j%*Ntj[WwIoP9bA?.f4_.FQ?i>RlH7[Acy9Ff~SxTrDtq[w3~iFCeZ*.IBW%Kn?=77X56Caxu[/IUNpr4g+kbv$a
9s(yY7NjLmr+rtnM<oHgT^)P:Q3wYw#I3=9^!cNsfE*RTT+tEy&Cu$w9j25X+?Mq1_Q89H3AuR.5(bt#;.O><<f!*x>(oy^^xXMq
[V?s)BMd:jQ9k#Rbdu&.n3gr*|u]WF^txraZg:=]R$cbw;O!G6gBg^+&C3]7m&d^ijqF$vAy]:lAmRxl#)>~P@q0g3ejs@4L&&c>
VU:CK!(?uTcDj|sd3;rGTsElhh*yQ=Q~LFH0V$j[v/=a~$OG)dU+Cg<*%@FzD*VN~._Fxo,irsm07jU0=s&[T(L3O$&F%qGkQF<0
Zl*r6(%SZSHmyymkFS~Gx<QaGDBW0EC>Pv5Z?H2%FA:]m!l5,,K2yA|P]C4q$WD0<Mz4H6KN+[zz2%MQSv0)?h#[ieOubQ!tMAf%
I^n0Hzwca5aVk/TZEERg0ps4UYc87fe*uZt=Moen~hTj+a?|v*x_?fk0OHEIqn6qWY3=HMUXgksQ!:/Pv&Mqqw0f35s>Zi!)2rH3
B?C[^>V:yAj7ep!Er&7Mv?LDIEX04:t;?xlEaw!Ut[6i.u%s=yHzGg?k#3gZEjgP]c#ud%NE#RY;mEirQ>5Oaer?o:HvYiu:4v[Y
]KSs)UVrzqFquZw0k:58&Yyjm&BW|w2+96]jM)Aq_Hwl?n&4|jhdPdw,6d=v%:lZG#9hktXf[H4zwGtpcQe$+zj*<8gBrCcR]^x1
qpTW?O?isxT&1,Nzsq/i2%oIb$#epG;Uw:t|*xZH;lLo2H&/lz#^K,_@~i&2N.$Kg2UjV?=~ncnCKS8m?]W^()9i,yt$O4(XWH*e
U4w4XdG7^!~mOuQP.i6O6$DV3n3&2=kRkn+if&JvFj2X9O,t~7S4r_n4]0FG<%0R.IxwJ$u#67z8khD_K?z]SJJmK0D8esU*&Mgb
72<ejCFeEpk&tjtK[eJ(GuJH!VrqLOW7[4Fy7BoJw!t8Kq9(MV#*FLfX=vsDOTGBpIlmGEGA5,3OcE0kZZ$.D_n]eL63NNA,]Byz
*d01fH!US>zdj+!UTj<6~!c(;D.|ikf%6Mi9?fJM(oJP#Mmst&qE&MUEK)h&0bzqG1+aW:ilDlGoYZdy%1Mr^|OOVg78^+/B/rcp
[#QKaCutfQa%*)p4FL@!!#Ya[BIrugEt|9xL>tEq+nhuF25D(_eD&5F7r5P:*gU!E|kl:K#eW!pS70j7.5h,uU&ZW9eN84hWMM2e
Ts0D#J(4~$ZJ1=!~HbrHp;!NjZs<)g4PX~RUA)FVdx?x|@P4]k,3^DFB;Waud@+Q2sl=K_ZcjQap/Hf6uU;*Ads7jr**=(h)i%zZ
>T*k?3?uJp,Mlq(|ARB2#0r]**H,.wIUjsCT:>Il3vnEIrq[4g0k_A|&nbXMGIe8pve!Df7,a0EEOX6t!GPu8?yk]hImNyqA~?eD
wg.FT$+tw+hc0R0FUU?D5xX95g]^p|RVn|ilXE8C>]Ty[A1b0dY_LH;Licz8OK^XNQA/5GEhXbalarQJu_9_xN%@OtLzasRD4LJu
29062nM1e=>d4@OtCj!GlSy)68$10Y1,K?/))8iTs^i*0N112goSodj>|[[fv+puV6[MnklXuCj4;%xgs#wpDnz5w>HTp*qB6cs!
@^%^S0r*gU$Bf4VZs.oi1rJZ?xEHqvm9ltgk/J)l,E?I5pfSSWqutdsHMMUjo1Tmk5i5SOKelQlP!,e(JvA%p5p&LwgQBP?.EQ6m
Qp?hpv1_enz)7&$:6W@7~/EwJ5bXc@]YYj+]l6,;^b8SebQ+nzHH+|zu+BZ&Ua%Ue.c)r@N<v^y*|qS3$Luxs,Epr0,7@^YObb*X
,]7Yp[n25.Q_wZ!=br/YFi2nd[&wG<fJ<3$9$viH:q[+O<!g:[rC6qD1@]K8~OWXizHjWK.i&ilhA>q73pmn.@[8eTu*~GW(OexR
D^!y_,O9hsu@*HZ!IZ%IuepVs]E7NefoS@o*3:qW9dlS]myg|pvdjM_|[8q%P+kvev,3Mc_8%G@pkrrDkly?kCq<~i+y,GW#?M2(
dB~mfaklMCpCk~^9sRS#7S>Q1c~!HBkx5](KPwn6lsdxVcF#0^jn]Tr@C3r_MhLWHC.?UgN+3fV?b/.v~)e;@B+uD3Pg?[R][v7;
*lfD^X3ACVMcN:Fd.mkHurS)DavO>U#$%^~YU*;t<Zb0lr<]I^J>xiMxp%][[V79]1/4w7PgF/<ei8Tc8EC~%a3E=UgFGGW5B;J/
kn@5QgNcf*|elx3]VkQ@gS?&nh?C*M;oGJ[$_vrmpX^.GZrEtH6~NZ#MVX#RUE#I0ESJ4!(#3^jT0$&#1YQ|ET$eY3%sIJhZFbP(
>syEkks(@&>7H:(|upoO8f02vz&Etgh@(%ujXAtfiefAPo,+^!g#Pk%/0Z%fwP:$DsKFCh=pkp#&UR9#_dXQjwUzO4TP!gK4K>t7
^U%D>^vQNMhEVId.<vjNZP5O/>d)],V$?Y]fpDqNl_|Y3_/iydBjEDVxQ]4gCoMusNnxYIK;Y(^FT?SX7COQ4_bgn#.6/5_8kboI
QVL:ORvA2ld>Zc~>wHMVix(.+jjky$JRw#+Us%i[5<E)EI(9C*w1mY2ptVh+,+7]l$yPD+wyl<OIv,.!SXqc([BSz3fzY;WDl$i]
GiSxOHhRNo$1tmOCV|$yA~32!9DAqDZza$2]4+,OLI%;kvE~8]U=PCMEY,Ox~[q*OibOSG4c+;l|q<0ioSA[!!IaBe~*kp?OApdP
kN,.P6F0]hYJLJEs@Luh@@j;)c6_3Q1:iOgRyA(D>yJD@6@r]t^^qN739e)V;4V/3@|V4hn;_JQ1hebWI2Em6=M?aI9bXnlsiGd:
M8l4*p9G@h;)6xR%EvNjit<XDM+ybRs)P_YB8U5USaZTraOLNEn0xDnpa[R3VUkqybvRpZD*91R5CGg|2dq,h#y.$EGHU[Iwp;@P
CcRI|O7P?a11JfRuCl4yL^iQY4Cp#dEJ?z<gvK!pc).xXLf+U.>C&i(QT,Kx^Be!a&hs;<>)pjC+ECrP~>|+kx;9gwRX7!09Tg5E
V49?Gp_59qQl8Oy)nuaI&rCy9^97HOklvvDfw$e)NSR6IwatEoU[;qBkN#%0a#Oz6M<_PK5NViz,,f]t&W9?&9#ILPrCc%w2#f.l
H(|NcyORE>vh#E=K|OSF=*BWG+:2oy2COf3?%#,=,!U;vnyxtTC+xMF&T]G%~(!_dHjGK.j?SlnKJJaG$wRRa1G:AX.vB#:f^SJ4
k36y?>w3f/.oLX5Mm>4ebn+n8?U6ON+tuAib><:DV>,rnGZ0H~Es(Jf]|h(k#wW8x[o*Bn>x%&3t!Rme|t>CLDd|~ZuGDkjTQC|A
4P[Afi>%YXAwmz7aT<~;5IqjKF6N*+6xqIy^RKfq|BM.]cGUD/G[b@Xd(kv6=Y5,Tf1~@oOZ#pQeUrE?sI8*ipkZp~vT44g+[rTY
UU:D906e+r?!>?WY)|E~gF%#_][~1L(z&VjH[u&nq#3ek4!T/i+uPEArQL#B^]N^#.mIi+@/eoX0Wp=3hQ:kOVvPZXK>=M||kZlC
ls:F;zX4iOU#:v@p,CT[l=#/VyqhFvP_R?H397G72wekZCER5CcR/[SfZXSyO4Yd*D^hd|3;f&ga&C^HEX3O@++y2_rm#Jv;$oXB
z|(Gd!UdO+k!o]lg2Au#UX)_W1_JdpPq?s!(,PT9Vq5Bp]x)z$WVh%Z$ss&h1KEAbIUZ;h*YL.6o]J;R3wu;Xr7_(naoPNdSO=kx
d3A2x2=z0r80zJDtPZ>_Su?>2nrdd908/t[Th[px~|X;|Xfz|?qD7@2I:NVV.UiouN7bbXrp@s
"

def classTable : String := "
<A:B,MABEA%hXABYABfA&BIAhjA%hkAhjA*BkA&B+1A%h+2A(hUABUABTA%BTA%BUAhTB%BUA%hTABUABEAhXABUABGAhCABBAhC
ABBA+BF)T&BA)JBTA%hUABTA%BUABPABDA&hUA&hTAhUABTAhUABPABMABEAB+3ABCABCABCABCABCABCABCABCAhCABCABCABCB
BCBBCABCBB+aABTBB+T%I(h+oAB+PABCABCwBJABCABCABCABCABCABCABCAh+IAhTA&BUABTAhUABTQB*x%l(B+GC%hAABTABUC
hABBTAhUABTjB*veB+EABTAhUABTAhUA%BTABUAhTABUABTA%BUABTABUABTABUABTABUABTAhU&g(BAABTABUJBTY%hUB)BAB%B
AB&BAr%BT8BUA%BTA%hUq&BAA&BTA+hUBBTAhUABTAhUABTA%BUA%BTAB+BABCABCA%B+SABTAhUAhTA&BU8B+9QBEDB+6ABTAhU
%nB+9QBEwB+69B+9QBE%uBDQBE%uBDQBE%#BA%uBDQBEHB&WABO%lB&nQBE%thAQBA%8BA%th&8AB&7N%h(E%shWAB(ZN%h(i%Mh
(EbBABBABBH3B&tABCBBEF%hDCBABh(IAB+5Bh+6!BT%wB+pBhE%SB+m;P%BU>0h+5eBA&dBAKB+6(LBD&PBLABQABT(bBUABT%H
B+lU(h+6CBTw&BUA&hTAhUABTBhAAhUAhTA&BUABTA%hU%lB+9PBEmB+6ABTA(BU2h+56BDLhE%DBD&Y%B+!BB,JA&B+2AhUA%hT
ABUB(B,JEB+2GBUDhA(GhAABTA(BUABTAhUABIABnABMABjA]B4ABEAhHABPABDABYABGABZABUABT;QhUAh,JA%h,KA%B,JAh,K
EBADh,JAB,KABTABUAh,JA%h+2ABU&%!%BA&NB+5%g?h+6.qBXABUABIABTAhE%ph+v_;UB+8E)hAghA%QhA)UB+5lBA&XBAb.h+
65%BTlB+l%fBDMBE(vB+6BhAABTChUFhABBA0B+5(2BA=[wBi<B(B+YA(BTAhU?NBT(iBA&V&BU%(SBTBBUoBAAB,JAB+2EB+l&l
B+6ABT.9%hU+DhA&ZhTA%BUABTABUA%hTxBUABTABUABT(AB+lpBAOBA5BAABD%F%B+!wh+5!BD%MBEJBD%qBEABD&yBAABE%QhD
QBEY(B+6D&BA(NB+5DBDXB+!%jB+5ABD(7BEABD%!BE%2BAABD%zBE)NBAABD)ChEEBD&cBE%TBASBA%RBA+lBA)CBDBhE%RBA=:
Y&BP7(B,K]5h+#=,sBJ(>Gh+uA%B+tDB,CA&BTI(hIC&BUAhTe%hU&U%BA&.7(BAB.BAC(BABhAB&BA)F(BA*3BA9%hA%$g(BT%t
&hUAB+9"

end DataDiagram.Text.NormalForm
